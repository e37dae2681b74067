import Mathlib.Data.List.TakeWhile
import RequestSql.Proofs.Scanning

namespace RequestSql

namespace Lexer

open Text (isBlank isNameStart isNamePart)

section Words

/-- The tail of a name is the front of the text. -/
theorem nameTail_prefix (t : Text) : nameTail t <+: t := by
  induction t with
  | nil => exact List.prefix_refl []
  | cons c t ih =>
    rw [nameTail]
    split
    · exact List.cons_prefix_cons.mpr ⟨rfl, ih⟩
    · split
      · exact List.cons_prefix_cons.mpr ⟨rfl, ih⟩
      · exact List.nil_prefix

/-- No name goes on with what neither belongs to a word nor is a point before one. -/
theorem nameTail_eq_nil {t : Text} : nameTail t = [] ↔ t.head?.any isNamePart = false ∧
    ¬(t.head? = some '.' ∧ t.tail.head?.any isNameStart = true) := by
  cases t with
  | nil => simp [nameTail]
  | cons c t =>
    rw [nameTail]
    by_cases hpart : isNamePart c = true
    · simp [hpart]
    · by_cases hpoint : c = '.' ∧ t.head?.any isNameStart = true
      · simp [hpoint]
      · simp only [if_neg hpart, if_neg hpoint]
        simpa [hpart] using hpoint

theorem nameTail_eq_cons {c : Char} {t u : Text} : nameTail (c :: t) = c :: u ↔
    nameTail t = u ∧ (isNamePart c = true ∨ c = '.' ∧ t.head?.any isNameStart = true) := by
  rw [nameTail]
  by_cases hpart : isNamePart c = true
  · simp [hpart]
  · by_cases hpoint : c = '.' ∧ t.head?.any isNameStart = true
    · simp [hpoint]
    · simp [hpart, hpoint]

/-- The content of a quoted string stands in the text with its quotes doubled, up to a quote that no
other one follows. -/
theorem quotedContent_eq_some {t u : Text} {n : Nat} (h : quotedContent t = some (u, n)) :
    ∃ rest, t = doubled u ++ '\'' :: rest ∧ n = (doubled u).length + 1 ∧
      rest.head? ≠ some '\'' := by
  fun_induction quotedContent t generalizing u n with
  | case1 => cases h
  | case2 rest ih =>
    obtain ⟨⟨v, m⟩, hv, hvm⟩ := Option.map_eq_some_iff.mp h
    cases hvm
    obtain ⟨rest, rfl, rfl, hrest⟩ := ih hv
    exact ⟨rest, by simp [doubled], by simp [doubled], hrest⟩
  | case3 rest hne =>
    cases h
    refine ⟨rest, rfl, rfl, ?_⟩
    intro hhead
    cases rest with
    | nil => cases hhead
    | cons d rest =>
      cases hhead
      exact hne rest rfl
  | case4 c rest _ hc ih =>
    obtain ⟨⟨v, m⟩, hv, hvm⟩ := Option.map_eq_some_iff.mp h
    cases hvm
    obtain ⟨rest, rfl, rfl, hrest⟩ := ih hv
    have hc : c ≠ '\'' := hc
    exact ⟨rest, by simp [doubled, hc], by simp [doubled, hc], hrest⟩

end Words

section Numbers

def DigitRun (digits rest : Text) : Prop :=
  Decimal.spanDigits (digits ++ rest) = (digits, rest)

theorem digitRun_takeWhile (t : Text) :
    DigitRun (t.takeWhile Char.isDigit) (t.dropWhile Char.isDigit) := by
  rw [DigitRun, List.takeWhile_append_dropWhile]
  rfl

theorem DigitRun.isDigit_of_mem {digits rest : Text} (h : DigitRun digits rest) {c : Char}
    (hc : c ∈ digits) : c.isDigit = true := by
  have hrun : (digits ++ rest).takeWhile Char.isDigit = digits := congrArg Prod.fst h
  rw [← hrun] at hc
  exact List.mem_takeWhile_imp hc

/-- Where a digit comes next there is a run of digits. -/
theorem DigitRun.ne_nil {digits rest : Text} (h : DigitRun digits rest)
    (hd : (digits ++ rest).head?.any Char.isDigit = true) : digits ≠ [] := by
  rintro rfl
  cases rest with
  | nil => cases hd
  | cons d rest =>
    have hd : d.isDigit = true := hd
    have hrun := congrArg Prod.fst h
    simp [Decimal.spanDigits, hd] at hrun

inductive Fraction : Text → Text → Prop where
  | absent {rest} (unpointed : ¬(rest.head? = some '.' ∧ rest.tail.head?.any Char.isDigit = true)) :
      Fraction [] rest
  | present {digits rest} (nonempty : digits ≠ []) (run : DigitRun digits rest) :
      Fraction ('.' :: digits) rest

theorem exists_fraction (t : Text) : ∃ fraction rest, t = fraction ++ rest ∧
    Fraction fraction rest := by
  by_cases h : t.head? = some '.' ∧ t.tail.head?.any Char.isDigit = true
  · obtain ⟨hpoint, hd⟩ := h
    obtain ⟨u, rfl⟩ := List.head?_eq_some_iff.mp hpoint
    refine ⟨'.' :: u.takeWhile Char.isDigit, u.dropWhile Char.isDigit, ?_, .present ?_ ?_⟩
    · rw [List.cons_append, List.takeWhile_append_dropWhile]
    · apply (digitRun_takeWhile u).ne_nil
      rw [List.takeWhile_append_dropWhile]
      exact hd
    · exact digitRun_takeWhile u
  · exact ⟨[], t, rfl, .absent h⟩

theorem Fraction.span_eq {fraction rest : Text} (h : Fraction fraction rest) :
    spanFraction (fraction ++ rest) = (fraction, rest) := by
  cases h with
  | absent unpointed =>
    rw [List.nil_append]
    unfold spanFraction
    split
    · rw [if_neg (by simpa using unpointed)]
    · rfl
  | @present digits _ nonempty run =>
    obtain ⟨d, digits, rfl⟩ := List.exists_cons_of_ne_nil nonempty
    have hd := run.isDigit_of_mem List.mem_cons_self
    rw [DigitRun, List.cons_append] at run
    rw [List.cons_append, List.cons_append, spanFraction, if_pos hd, run]

def ExponentSign (sign rest : Text) : Prop :=
  sign = ['+'] ∨ sign = ['-'] ∨ sign = [] ∧ rest.head? ≠ some '+' ∧ rest.head? ≠ some '-'

theorem exists_exponentSign (t : Text) : ∃ sign rest, t = sign ++ rest ∧ ExponentSign sign rest := by
  by_cases hplus : t.head? = some '+'
  · obtain ⟨u, rfl⟩ := List.head?_eq_some_iff.mp hplus
    exact ⟨['+'], u, rfl, .inl rfl⟩
  by_cases hminus : t.head? = some '-'
  · obtain ⟨u, rfl⟩ := List.head?_eq_some_iff.mp hminus
    exact ⟨['-'], u, rfl, .inr (.inl rfl)⟩
  · exact ⟨[], t, rfl, .inr (.inr ⟨rfl, hplus, hminus⟩)⟩

inductive Exponent : Text → Text → Prop where
  | absent {rest} (unpowered : ¬(rest.head? = some 'e' ∨ rest.head? = some 'E')) : Exponent [] rest
  | present {e sign digits rest} (letter : e = 'e' ∨ e = 'E')
      (signed : ExponentSign sign (digits ++ rest)) (run : DigitRun digits rest) :
      Exponent (e :: (sign ++ digits)) rest

theorem exists_exponent (t : Text) : ∃ exponent rest, t = exponent ++ rest ∧
    Exponent exponent rest := by
  by_cases h : t.head? = some 'e' ∨ t.head? = some 'E'
  · obtain ⟨e, u, rfl, he⟩ : ∃ e u, t = e :: u ∧ (e = 'e' ∨ e = 'E') := by
      rcases h with h | h
      · obtain ⟨u, rfl⟩ := List.head?_eq_some_iff.mp h
        exact ⟨'e', u, rfl, .inl rfl⟩
      · obtain ⟨u, rfl⟩ := List.head?_eq_some_iff.mp h
        exact ⟨'E', u, rfl, .inr rfl⟩
    obtain ⟨sign, v, rfl, hsign⟩ := exists_exponentSign u
    refine ⟨e :: (sign ++ v.takeWhile Char.isDigit), v.dropWhile Char.isDigit, ?_,
      .present he ?_ (digitRun_takeWhile v)⟩
    · rw [List.cons_append, List.append_assoc, List.takeWhile_append_dropWhile]
    · rwa [List.takeWhile_append_dropWhile]
  · exact ⟨[], t, rfl, .absent h⟩

theorem Exponent.span_eq {exponent rest : Text} (h : Exponent exponent rest) :
    spanExponent (exponent ++ rest) = (exponent, rest) := by
  cases h with
  | absent unpowered =>
    cases rest with
    | nil => rfl
    | cons c rest =>
      unfold spanExponent
      exact if_neg (by simpa using unpowered)
  | @present e sign digits _ letter signed run =>
    have hrun : Decimal.spanDigits (digits ++ rest) = (digits, rest) := run
    rw [List.cons_append, List.append_assoc]
    unfold spanExponent
    dsimp only
    rw [if_pos letter]
    rcases signed with rfl | rfl | ⟨rfl, hplus, hminus⟩
    · simp [hrun]
    · simp [hrun]
    · rw [List.nil_append]
      split
      · rename_i h
        exact absurd (by rw [h]; rfl) hplus
      · rename_i h
        exact absurd (by rw [h]; rfl) hminus
      · rw [hrun]
        rfl

/-- The parts of a number: an optional sign, digits, a fraction and an exponent. What follows them
goes on with none. -/
structure NumberParts (sign whole fraction exponent rest : Text) : Prop where
  sign : sign = ['-'] ∨ sign = [] ∧ (whole ++ (fraction ++ (exponent ++ rest))).head? ≠ some '-'
  whole : DigitRun whole (fraction ++ (exponent ++ rest))
  fraction : Fraction fraction (exponent ++ rest)
  exponent : Exponent exponent rest

/-- Every text begins with the parts of a number, all of them possibly empty. -/
theorem exists_numberParts (t : Text) : ∃ sign whole fraction exponent rest,
    t = sign ++ (whole ++ (fraction ++ (exponent ++ rest))) ∧
      NumberParts sign whole fraction exponent rest := by
  have hsign : ∃ sign u, t = sign ++ u ∧ (sign = ['-'] ∨ sign = [] ∧ u.head? ≠ some '-') := by
    by_cases h : t.head? = some '-'
    · obtain ⟨u, rfl⟩ := List.head?_eq_some_iff.mp h
      exact ⟨['-'], u, rfl, .inl rfl⟩
    · exact ⟨[], t, rfl, .inr ⟨rfl, h⟩⟩
  obtain ⟨sign, u, rfl, hsign⟩ := hsign
  obtain ⟨fraction, v, hv, hfraction⟩ := exists_fraction (u.dropWhile Char.isDigit)
  obtain ⟨exponent, rest, rfl, hexponent⟩ := exists_exponent v
  have hwhole := digitRun_takeWhile u
  have hu : u.takeWhile Char.isDigit ++ u.dropWhile Char.isDigit = u :=
    List.takeWhile_append_dropWhile
  rw [hv] at hwhole hu
  refine ⟨sign, u.takeWhile Char.isDigit, fraction, exponent, rest, ?_, ?_, hwhole, hfraction,
    hexponent⟩
  · rw [hu]
  · rwa [hu]

def numberKind (sign whole fraction exponent : Text) : TokenKind :=
  if fraction.isEmpty && exponent.isEmpty then integerKind (!sign.isEmpty) whole
  else
    match Binary64.read? (sign ++ whole ++ fraction ++ exponent) with
    | some x => .float x
    | none => .error .invalidFloat

/-- A number is scanned from its parts, with a word that follows directly. -/
theorem NumberParts.scanNumber_eq {sign whole fraction exponent rest : Text}
    (h : NumberParts sign whole fraction exponent rest) :
    scanNumber (sign ++ (whole ++ (fraction ++ (exponent ++ rest)))) =
      if rest.head?.any isNameStart then
        let text := sign ++ whole ++ fraction ++ exponent ++ rest.takeWhile isNamePart
        (.error (.invalidNumber text), text)
      else (numberKind sign whole fraction exponent, sign ++ whole ++ fraction ++ exponent) := by
  unfold scanNumber
  split
  rename_i sign' rest' heq
  have hpair : sign' = sign ∧ rest' = whole ++ (fraction ++ (exponent ++ rest)) := by
    rcases h.sign with rfl | ⟨rfl, hhead⟩
    · cases heq
      exact ⟨rfl, rfl⟩
    · split at heq
      · rename_i hminus
        rw [List.nil_append] at hminus
        rw [hminus] at hhead
        exact absurd rfl hhead
      · cases heq
        exact ⟨rfl, rfl⟩
  obtain ⟨rfl, rfl⟩ := hpair
  have hwhole : Decimal.spanDigits (whole ++ (fraction ++ (exponent ++ rest))) =
    (whole, fraction ++ (exponent ++ rest)) := h.whole
  simp only [hwhole, h.fraction.span_eq, h.exponent.span_eq, numberKind]
  split
  · rfl
  split
  · rfl
  cases Binary64.read? (sign' ++ whole ++ fraction ++ exponent) <;> rfl

end Numbers

/-- What can be scanned at the front of a text: each kind of token with the condition on what
follows it. -/
inductive Scanned : Text → TokenKind → Text → Prop where
  | leftParen {rest} : Scanned ['('] .leftParen rest
  | rightParen {rest} : Scanned [')'] .rightParen rest
  | string {t rest} (closed : rest.head? ≠ some '\'') : Scanned (Text.quoted t) (.string t) rest
  | unterminated {tail} (unclosed : quotedContent tail = none) :
      Scanned ('\'' :: tail) (.error .unterminatedString) []
  | number {sign whole fraction exponent rest}
      (parts : NumberParts sign whole fraction exponent rest) (digits : whole ≠ [])
      (apart : rest.head?.any isNameStart = false) :
      Scanned (sign ++ whole ++ fraction ++ exponent) (numberKind sign whole fraction exponent) rest
  | malformed {sign whole fraction exponent word rest}
      (parts : NumberParts sign whole fraction exponent (word ++ rest)) (digits : whole ≠ [])
      (letter : word.head?.any isNameStart = true)
      (maximal : (word ++ rest).takeWhile isNamePart = word) :
      Scanned (sign ++ whole ++ fraction ++ exponent ++ word)
        (.error (.invalidNumber (sign ++ whole ++ fraction ++ exponent ++ word))) rest
  | name {c tail rest} (start : isNameStart c = true) (maximal : nameTail (tail ++ rest) = tail) :
      Scanned (c :: tail) (nameKind (c :: tail)) rest
  | unexpected {c rest} (visible : isBlank c = false)
      (symbol : c ≠ '(' ∧ c ≠ ')' ∧ c ≠ '\'')
      (number : (c.isDigit || (c == '-' && rest.head?.any Char.isDigit)) = false)
      (name : isNameStart c = false) : Scanned [c] (.error (.unexpectedCharacter c)) rest

section Scanners

variable {sign whole fraction exponent rest w : Text} {kind : TokenKind} {c : Char} {u : Text}

/-- A number begins with a digit, or with a sign before one. -/
theorem NumberParts.first (h : NumberParts sign whole fraction exponent rest) (hne : whole ≠ [])
    (ht : c :: u = sign ++ (whole ++ (fraction ++ (exponent ++ rest)))) :
    (c.isDigit || (c == '-' && u.head?.any Char.isDigit)) = true ∧
      isBlank c = false ∧ c ≠ '(' ∧ c ≠ ')' ∧ c ≠ '\'' := by
  obtain ⟨d, digits, rfl⟩ := List.exists_cons_of_ne_nil hne
  have hd := h.whole.isDigit_of_mem List.mem_cons_self
  rcases h.sign with rfl | ⟨rfl, _⟩
  · cases ht
    exact ⟨by simp [hd], by decide⟩
  · cases ht
    refine ⟨by simp [hd], ?_, Text.ne_of_class hd (by decide), Text.ne_of_class hd (by decide),
      Text.ne_of_class hd (by decide)⟩
    rw [← Bool.not_eq_true]
    intro hb
    rw [Text.isDigit_of_isBlank hb] at hd
    cases hd

theorem NumberParts.scan_eq (h : NumberParts sign whole fraction exponent rest) (hne : whole ≠ [])
    (ht : c :: u = sign ++ (whole ++ (fraction ++ (exponent ++ rest)))) :
    scan c u = ((scanNumber (c :: u)).1, (scanNumber (c :: u)).2.length - 1) := by
  obtain ⟨hnumber, _, hopen, hclose, hquote⟩ := h.first hne ht
  rw [scan, if_neg hopen, if_neg hclose, if_neg hquote, if_pos hnumber]

/-- A number takes its parts, and the word after them where there is one. -/
theorem NumberParts.scanned (h : NumberParts sign whole fraction exponent rest) (hne : whole ≠ []) :
    ∃ w kind after, sign ++ (whole ++ (fraction ++ (exponent ++ rest))) = w ++ after ∧
      scanNumber (sign ++ (whole ++ (fraction ++ (exponent ++ rest)))) = (kind, w) ∧
      Scanned w kind after := by
  rw [h.scanNumber_eq]
  split
  · rename_i hletter
    have hword : rest.takeWhile isNamePart ++ rest.dropWhile isNamePart = rest :=
      List.takeWhile_append_dropWhile
    have hfirst : (rest.takeWhile isNamePart).head?.any isNameStart = true := by
      cases rest with
      | nil => cases hletter
      | cons c rest =>
        have hc : isNameStart c = true := hletter
        rw [List.takeWhile_cons_of_pos (isNamePart_of_isNameStart hc)]
        exact hc
    refine ⟨_, _, rest.dropWhile isNamePart, ?_, rfl, ?_⟩
    · simp only [List.append_assoc, hword]
    · exact .malformed (by rwa [hword]) hne hfirst (by rw [hword])
  · rename_i hapart
    refine ⟨_, _, rest, ?_, rfl, .number h hne (by simpa using hapart)⟩
    simp only [List.append_assoc]

/-- A character that is not blank begins something that can be scanned. -/
theorem scan_scanned (hblank : isBlank c = false) (u : Text) :
    ∃ w kind rest, c :: u = w ++ rest ∧ scan c u = (kind, w.length - 1) ∧
      Scanned w kind rest := by
  by_cases hopen : c = '('
  · subst hopen
    exact ⟨['('], _, u, rfl, rfl, .leftParen⟩
  by_cases hclose : c = ')'
  · subst hclose
    exact ⟨[')'], _, u, rfl, rfl, .rightParen⟩
  by_cases hquote : c = '\''
  · subst hquote
    rw [scan, if_neg hopen, if_neg hclose, if_pos rfl]
    cases hq : quotedContent u with
    | none => exact ⟨'\'' :: u, _, [], (List.append_nil _).symm, rfl, .unterminated hq⟩
    | some content =>
      obtain ⟨rest, rfl, hn, hhead⟩ := quotedContent_eq_some hq
      refine ⟨Text.quoted content.1, _, rest, ?_, ?_, .string hhead⟩
      · simp [Text.quoted, doubled]
      · simp [Text.quoted, doubled, hn]
  by_cases hnumber : (c.isDigit || (c == '-' && u.head?.any Char.isDigit)) = true
  · obtain ⟨sign, whole, fraction, exponent, rest, ht, parts⟩ := exists_numberParts (c :: u)
    have hne : whole ≠ [] := by
      apply parts.whole.ne_nil
      rcases parts.sign with rfl | ⟨rfl, hminus⟩
      · cases ht
        simpa using hnumber
      · rw [List.nil_append] at ht
        rw [← ht] at hminus ⊢
        have hc : c ≠ '-' := fun h => hminus (congrArg some h)
        simpa [hc] using hnumber
    obtain ⟨w, kind, after, hw, hs, hscanned⟩ := parts.scanned hne
    rw [← ht] at hw hs
    refine ⟨w, kind, after, hw, ?_, hscanned⟩
    rw [parts.scan_eq hne ht, hs]
  by_cases hstart : isNameStart c = true
  · obtain ⟨rest, hrest⟩ := nameTail_prefix u
    refine ⟨c :: nameTail u, _, rest, ?_, scan_isNameStart hstart u, .name hstart ?_⟩
    · rw [List.cons_append, hrest]
    · rw [hrest]
  · refine ⟨[c], _, u, rfl, ?_, .unexpected hblank ⟨hopen, hclose, hquote⟩ (by simpa using hnumber)
      (by simpa using hstart)⟩
    rw [scan, if_neg hopen, if_neg hclose, if_neg hquote, if_neg hnumber, if_neg hstart]
    rfl

/-- Parts of a number are scanned with the text that the scanner takes. -/
theorem NumberParts.scans {after : Text} (h : NumberParts sign whole fraction exponent rest)
    (hne : whole ≠ [])
    (hw : sign ++ (whole ++ (fraction ++ (exponent ++ rest))) = w ++ after)
    (hs : scanNumber (sign ++ (whole ++ (fraction ++ (exponent ++ rest)))) = (kind, w))
    (hlong : w ≠ []) : Scans w kind after := by
  obtain ⟨c, tail, rfl⟩ := List.exists_cons_of_ne_nil hlong
  rw [List.cons_append] at hw
  obtain ⟨_, hblank, _⟩ := h.first hne hw.symm
  refine ⟨c, tail, rfl, hblank, ?_⟩
  rw [h.scan_eq hne hw.symm, ← hw, hs]
  rfl

/-- What can be scanned is scanned. -/
theorem Scanned.scans (h : Scanned w kind rest) : Scans w kind rest := by
  cases h with
  | leftParen => exact ⟨'(', [], rfl, by decide, rfl⟩
  | rightParen => exact ⟨')', [], rfl, by decide, rfl⟩
  | @string t _ closed =>
    refine ⟨'\'', doubled t ++ ['\''], rfl, by decide, ?_⟩
    rw [scan, if_neg (by decide), if_neg (by decide), if_pos rfl, List.append_assoc,
      List.singleton_append, quotedContent_doubled closed]
    simp
  | @unterminated tail unclosed =>
    refine ⟨'\'', tail, rfl, by decide, ?_⟩
    rw [scan, if_neg (by decide), if_neg (by decide), if_pos rfl, List.append_nil, unclosed]
  | number parts digits apart =>
    refine parts.scans digits (by simp only [List.append_assoc]) ?_ (by simp [digits])
    rw [parts.scanNumber_eq, if_neg (by simp [apart])]
  | @malformed sign whole fraction exponent word _ parts digits letter maximal =>
    refine parts.scans digits (by simp only [List.append_assoc]) ?_ (by simp [digits])
    have hletter : (word ++ rest).head?.any isNameStart = true := by
      cases word with
      | nil => cases letter
      | cons c word => exact letter
    rw [parts.scanNumber_eq, if_pos hletter, maximal]
  | @name c tail _ start maximal =>
    refine ⟨c, tail, rfl, Text.isBlank_of_isNameChar (Text.isNameChar_of_isNameStart start), ?_⟩
    rw [scan_isNameStart start, maximal]
  | @unexpected c _ visible symbol number name =>
    obtain ⟨hopen, hclose, hquote⟩ := symbol
    refine ⟨c, [], rfl, visible, ?_⟩
    rw [List.nil_append, scan, if_neg hopen, if_neg hclose, if_neg hquote,
      if_neg (by simp [number]), if_neg (by simp [name])]
    rfl

/-- A scanned text is not empty. -/
theorem Scanned.ne_nil (h : Scanned w kind rest) : w ≠ [] := by
  obtain ⟨c, tail, rfl, _⟩ := h.scans
  exact List.cons_ne_nil c tail

end Scanners

section Lexemes

/-- What the text of a token is, by its kind. Of a number or of what is malformed nothing is said. -/
def IsLexeme : TokenKind → Text → Prop
  | .identifier name, w => w = name
  | .keyword k, w => Text.asciiLower w = k.text
  | .string t, w => w = Text.quoted t
  | .leftParen, w => w = ['(']
  | .rightParen, w => w = [')']
  | .eof, w => w = []
  | _, _ => True

theorem asciiLower_of_ofText {w : Text} {k : Keyword} (h : Keyword.ofText? w = some k) :
    Text.asciiLower w = k.text := by
  have hk := List.find?_some h
  exact (beq_iff_eq.mp hk).symm

theorem isLexeme_nameKind (name : Text) : IsLexeme (nameKind name) name := by
  unfold nameKind
  split
  · rfl
  · split
    · rename_i k hk
      exact asciiLower_of_ofText hk
    · rfl

theorem isLexeme_numberKind (sign whole fraction exponent w : Text) :
    IsLexeme (numberKind sign whole fraction exponent) w := by
  unfold numberKind integerKind
  dsimp only
  repeat' split
  all_goals trivial

theorem Scanned.isLexeme {w rest : Text} {kind : TokenKind} (h : Scanned w kind rest) :
    IsLexeme kind w := by
  cases h with
  | leftParen | rightParen | string _ => rfl
  | number _ _ _ => exact isLexeme_numberKind _ _ _ _ _
  | name _ _ => exact isLexeme_nameKind _
  | unterminated _ | malformed _ _ _ _ | unexpected _ _ _ _ => trivial

/-- The end of input is never scanned. -/
theorem Scanned.ne_eof {w rest : Text} {kind : TokenKind} (h : Scanned w kind rest) :
    kind ≠ .eof := by
  rintro rfl
  exact h.ne_nil h.isLexeme

end Lexemes

end Lexer

end RequestSql
