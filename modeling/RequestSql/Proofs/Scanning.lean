import RequestSql.Proofs.Alphabet
import RequestSql.Proofs.Numerals

namespace RequestSql

namespace Text

def isNameWord : Text → Bool
  | [] => false
  | c :: rest => isNameStart c && rest.all isNamePart

/-- A text that no token before it goes on with. -/
def Breaks (t : Text) : Prop :=
  ∀ c ∈ t.head?, isBlank c = true ∨ c = '(' ∨ c = ')'

/-- Characters of which one is of a class and the other is not. -/
theorem ne_of_class {p : Char → Bool} {c d : Char} (hc : p c = true) (hd : p d = false) : c ≠ d := by
  rintro rfl
  rw [hc] at hd
  cases hd

/-- The first character is a separator before the pieces of the rest, or it begins the first one. -/
theorem splitOn_cons {sep c : Char} {t first : Text} {others : List Text}
    (h : splitOn sep (c :: t) = first :: others) : ∃ w ws, splitOn sep t = w :: ws ∧
      (c = sep ∧ first = [] ∧ others = w :: ws ∨ c ≠ sep ∧ first = c :: w ∧ others = ws) := by
  obtain ⟨w, ws, hws⟩ := List.exists_cons_of_ne_nil (splitOn_ne_nil sep t)
  refine ⟨w, ws, hws, ?_⟩
  rw [splitOn] at h hws
  by_cases hc : c = sep
  · rw [splitBy, if_pos (beq_iff_eq.mpr hc), hws] at h
    cases h
    exact .inl ⟨hc, rfl, rfl⟩
  · rw [splitBy_cons_false (by simpa using hc), hws] at h
    cases h
    exact .inr ⟨hc, rfl, rfl⟩

theorem splitOn_of_not_mem {sep : Char} {t : Text} (h : sep ∉ t) : splitOn sep t = [t] := by
  have hall : ∀ c ∈ t, (c == sep) = false := fun c hc => beq_eq_false_iff_ne.mpr fun he => h (he ▸ hc)
  have happend := splitBy_append hall []
  rw [List.append_nil] at happend
  rw [splitOn, happend]
  simp [splitBy]

end Text

/-- A name that a field can have: words separated by points. A word by itself is not a reserved
one. -/
def Filter.isFieldName (name : Text) : Bool :=
  (Text.splitOn '.' name).all Text.isNameWord &&
    (name.contains '.' || (Keyword.ofText? name).isNone)

namespace Lexer

open Text (isBlank isNameStart isNamePart isNameChar isNameWord Breaks)

def kinds (t : Text) : List TokenKind :=
  (tokens t).map Token.kind

/-- A text is scanned as one token of a kind where another text follows. -/
def Scans (w : Text) (kind : TokenKind) (rest : Text) : Prop :=
  ∃ c tail, w = c :: tail ∧ isBlank c = false ∧ scan c (tail ++ rest) = (kind, tail.length)

section Tokens

variable {c : Char} {w rest : Text} {kind : TokenKind}

/-- Where the text begins does not matter to the kinds of its tokens. -/
theorem kinds_tokensFrom (offset skip : Nat) (t : Text) :
    (tokensFrom offset skip t).map Token.kind = (tokensFrom 0 skip t).map Token.kind := by
  induction t generalizing offset skip with
  | nil => rfl
  | cons c t ih =>
    cases skip with
    | succ skip =>
      rw [tokensFrom, tokensFrom, ih, ih (0 + c.utf8Size)]
    | zero =>
      rw [tokensFrom, tokensFrom]
      split
      · rw [ih, ih (0 + c.utf8Size)]
      · simp only [List.map_cons]
        rw [ih, ih (0 + c.utf8Size)]

/-- The characters of a token that has been scanned are passed over. -/
theorem kinds_skip (w rest : Text) :
    (tokensFrom 0 w.length (w ++ rest)).map Token.kind = kinds rest := by
  induction w with
  | nil => rfl
  | cons c w ih =>
    rw [List.cons_append, List.length_cons, tokensFrom, kinds_tokensFrom, ih]

theorem kinds_cons_blank (hc : isBlank c = true) (t : Text) : kinds (c :: t) = kinds t := by
  rw [kinds, tokens, tokensFrom, if_pos hc, kinds_tokensFrom]
  rfl

theorem Scans.kinds_append (h : Scans w kind rest) : kinds (w ++ rest) = kind :: kinds rest := by
  obtain ⟨c, tail, rfl, hc, hs⟩ := h
  rw [List.cons_append, kinds, tokens, tokensFrom, if_neg (by simp [hc]), hs]
  simp only [List.map_cons]
  rw [kinds_tokensFrom, kinds_skip]

end Tokens

section Breaks

variable {c : Char} {rest : Text}

theorem breaks_cons (h : (isBlank c || c == '(' || c == ')') = true) : Breaks (c :: rest) := by
  intro d hd
  cases hd
  simpa [or_assoc] using h

theorem breaks_nil : Breaks [] :=
  nofun

theorem breaks_space (t : Text) : Breaks (' ' :: t) :=
  breaks_cons (by decide)

/-- What breaks a token is no character of a name, and no quote. -/
theorem isNameChar_of_breaks (h : isBlank c = true ∨ c = '(' ∨ c = ')') :
    isNameChar c = false ∧ c ≠ '\'' := by
  rcases h with h | rfl | rfl
  · constructor
    · rw [← Bool.not_eq_true]
      intro hn
      rw [Text.isBlank_of_isNameChar hn] at h
      cases h
    · rintro rfl
      exact absurd h (by decide)
  · decide
  · decide

theorem isNameStart_of_isNameChar (h : isNameChar c = false) : isNameStart c = false := by
  rw [← Bool.not_eq_true] at h ⊢
  exact fun hs => h (Text.isNameChar_of_isNameStart hs)

theorem isDigit_of_isNameChar (h : isNameChar c = false) : c.isDigit = false := by
  rw [← Bool.not_eq_true] at h ⊢
  intro hd
  apply h
  simp [isNameChar, isNamePart, Text.isAlphanumeric, Text.isNumeric_of_isDigit hd]

end Breaks

section Names

variable {c : Char} {t w rest : Text}

theorem isNamePart_of_isNameStart (h : isNameStart c = true) : isNamePart c = true := by
  rw [isNameStart, Bool.or_eq_true] at h
  rcases h with h | h
  · simp [isNamePart, Text.isAlphanumeric, h]
  · simp [isNamePart, h]

theorem isDigit_of_isNameStart (h : isNameStart c = true) : c.isDigit = false := by
  rw [← Bool.not_eq_true, Text.isDigit_iff]
  intro hd
  rw [isNameStart, Bool.or_eq_true, Text.isAlphabetic, if_pos (by omega), Text.isAlpha_iff,
    beq_iff_eq] at h
  rcases h with h | rfl
  · omega
  · revert hd
    decide

theorem all_isNamePart (h : isNameWord w = true) : w.all isNamePart = true := by
  cases w with
  | nil => rfl
  | cons c w =>
    rw [isNameWord, Bool.and_eq_true] at h
    rw [List.all_cons, isNamePart_of_isNameStart h.1, h.2]
    rfl

/-- The first of the words begins the text. -/
theorem splitOn_isNameStart {ws : List Text} (h : Text.splitOn '.' t = w :: ws)
    (hw : isNameWord w = true) : ∃ c tail, t = c :: tail ∧ isNameStart c = true := by
  cases t with
  | nil =>
    cases h
    cases hw
  | cons c t =>
    refine ⟨c, t, rfl, ?_⟩
    obtain ⟨_, _, _, ⟨_, rfl, _⟩ | ⟨_, rfl, _⟩⟩ := Text.splitOn_cons h
    · cases hw
    · rw [isNameWord, Bool.and_eq_true] at hw
      exact hw.1

/-- A name goes on up to the break: its first word, and every further one after a point. -/
theorem nameTail_append (hrest : Breaks rest) {first : Text} {others : List Text}
    (hs : Text.splitOn '.' t = first :: others) (hfirst : first.all isNamePart = true)
    (hothers : others.all isNameWord = true) : nameTail (t ++ rest) = t := by
  induction t generalizing first others with
  | nil =>
    cases rest with
    | nil => rfl
    | cons c rest =>
      obtain ⟨hc, _⟩ := isNameChar_of_breaks (hrest c rfl)
      rw [isNameChar, Bool.or_eq_false_iff, beq_eq_false_iff_ne] at hc
      rw [List.nil_append, nameTail, if_neg (by simp [hc.1]), if_neg (by simp [hc.2])]
  | cons c t ih =>
    rw [List.cons_append, nameTail]
    obtain ⟨w, ws, hws, ⟨rfl, rfl, rfl⟩ | ⟨_, rfl, rfl⟩⟩ := Text.splitOn_cons hs
    · -- a point: the next word begins right after it
      rw [List.all_cons, Bool.and_eq_true] at hothers
      have hhead : (t ++ rest).head?.any isNameStart = true := by
        obtain ⟨d, t', rfl, hd⟩ := splitOn_isNameStart hws hothers.1
        exact hd
      rw [if_neg (by decide), if_pos ⟨rfl, hhead⟩,
        ih hws (all_isNamePart hothers.1) hothers.2]
    · rw [List.all_cons, Bool.and_eq_true] at hfirst
      rw [if_pos hfirst.1, ih hws hfirst.2 hothers]

theorem scan_isNameStart (hc : isNameStart c = true) (rest : Text) :
    scan c rest = (nameKind (c :: nameTail rest), (nameTail rest).length) := by
  have hnumber : (c.isDigit || (c == '-' && rest.head?.any Char.isDigit)) = false := by
    rw [isDigit_of_isNameStart hc, beq_eq_false_iff_ne.mpr (Text.ne_of_class hc (by decide))]
    rfl
  rw [scan, if_neg (Text.ne_of_class hc (by decide)), if_neg (Text.ne_of_class hc (by decide)),
    if_neg (Text.ne_of_class hc (by decide)), if_neg (by simp [hnumber]), if_pos hc]

/-- Words separated by points are scanned as one name, or as the reserved word that they spell. -/
theorem scans_name (hw : (Text.splitOn '.' w).all isNameWord = true) (hrest : Breaks rest) :
    Scans w (nameKind w) rest := by
  obtain ⟨first, others, hs⟩ := List.exists_cons_of_ne_nil (Text.splitOn_ne_nil '.' w)
  rw [hs, List.all_cons, Bool.and_eq_true] at hw
  obtain ⟨c, tail, rfl, hc⟩ := splitOn_isNameStart hs hw.1
  have hpart := isNamePart_of_isNameStart hc
  have htail : nameTail (tail ++ rest) = tail := by
    have hall := nameTail_append hrest hs (all_isNamePart hw.1) hw.2
    rw [List.cons_append, nameTail, if_pos hpart, List.cons.injEq] at hall
    exact hall.2
  refine ⟨c, tail, rfl, Text.isBlank_of_isNameChar (Text.isNameChar_of_isNameStart hc), ?_⟩
  rw [scan_isNameStart hc, htail]

end Names

section Keywords

variable {w rest : Text} {k : Keyword}

theorem isAlpha_of_ofText (h : Keyword.ofText? w = some k) : w.all Char.isAlpha = true := by
  have hk : k.text.all Char.isAlpha = true := by cases k <;> decide
  have hlower : k.text = Text.asciiLower w := by
    simpa using List.find?_some h
  rw [hlower, Text.asciiLower, List.all_map] at hk
  rw [List.all_eq_true] at hk ⊢
  intro c hc
  by_contra hn
  -- a character that is no letter stays as it is in lower case
  have := hk c hc
  rw [Function.comp_apply, Binary64.toLower_of_not_isAlpha (by simpa using hn)] at this
  exact hn this

/-- A reserved word is scanned as such in any case of letters. -/
theorem scans_keyword (h : Keyword.ofText? w = some k) (hrest : Breaks rest) :
    Scans w (.keyword k) rest := by
  have halpha := List.all_eq_true.mp (isAlpha_of_ofText h)
  have hpoint : '.' ∉ w := fun hm => absurd (halpha '.' hm) (by decide)
  have hword : isNameWord w = true := by
    have hstart : ∀ c ∈ w, isNameStart c = true := fun c hc => by
      simp [isNameStart, Text.isAlphabetic_of_isAlpha (halpha c hc)]
    cases w with
    | nil => cases h
    | cons c w =>
      rw [isNameWord, hstart c List.mem_cons_self, Bool.true_and, List.all_eq_true]
      exact fun d hd => isNamePart_of_isNameStart (hstart d (List.mem_cons_of_mem _ hd))
  have hkind : nameKind w = .keyword k := by
    rw [nameKind, if_neg hpoint, h]
  rw [← hkind]
  exact scans_name (by simp [Text.splitOn_of_not_mem hpoint, hword]) hrest

/-- A field name begins with a letter or an underscore and has only characters of names. -/
theorem isFieldName_chars (h : Filter.isFieldName w = true) :
    w.head?.any isNameStart = true ∧ w.all isNameChar = true := by
  rw [Filter.isFieldName, Bool.and_eq_true] at h
  obtain ⟨first, others, hs⟩ := List.exists_cons_of_ne_nil (Text.splitOn_ne_nil '.' w)
  obtain ⟨c, tail, rfl, hc⟩ := splitOn_isNameStart hs
    (List.all_eq_true.mp h.1 first (hs ▸ List.mem_cons_self))
  refine ⟨hc, List.all_eq_true.mpr fun d hd => ?_⟩
  by_cases hpoint : d = '.'
  · simp [isNameChar, hpoint]
  · obtain ⟨u, hu, hdu⟩ := Text.mem_splitBy_of_mem (p := (· == '.')) hd (by simpa using hpoint)
    have hpart := List.all_eq_true.mp (all_isNamePart (List.all_eq_true.mp h.1 u hu)) d hdu
    simp [isNameChar, hpart]

/-- No field name is reserved, since a reserved word has no point in it. -/
theorem ofText_isFieldName (h : Filter.isFieldName w = true) : Keyword.ofText? w = none := by
  rw [Filter.isFieldName, Bool.and_eq_true, Bool.or_eq_true, List.contains_iff_mem,
    Option.isNone_iff_eq_none] at h
  rcases h.2 with hpoint | hnone
  · cases hk : Keyword.ofText? w with
    | none => rfl
    | some k =>
      have halpha := List.all_eq_true.mp (isAlpha_of_ofText hk) '.' hpoint
      exact absurd halpha (by decide)
  · exact hnone

theorem scans_fieldName (hw : Filter.isFieldName w = true) (hrest : Breaks rest) :
    Scans w (.identifier w) rest := by
  have hkind : nameKind w = .identifier w := by
    rw [nameKind, ofText_isFieldName hw]
    exact ite_self _
  rw [← hkind]
  rw [Filter.isFieldName, Bool.and_eq_true] at hw
  exact scans_name hw.1 hrest

end Keywords

section Symbols

theorem kinds_leftParen (t : Text) : kinds ('(' :: t) = .leftParen :: kinds t :=
  Scans.kinds_append ⟨'(', [], rfl, by decide, rfl⟩

theorem kinds_rightParen (t : Text) : kinds (')' :: t) = .rightParen :: kinds t :=
  Scans.kinds_append ⟨')', [], rfl, by decide, rfl⟩

theorem kinds_space (t : Text) : kinds (' ' :: t) = kinds t :=
  kinds_cons_blank (by decide) t

end Symbols

section Numbers

variable {digits rest : Text}

/-- What follows a number where a break does: no further part of it, and no word. -/
theorem breaks_head (hrest : Breaks rest) : rest.head?.any Char.isDigit = false ∧
    spanFraction rest = ([], rest) ∧ spanExponent rest = ([], rest) ∧
    rest.head?.any isNameStart = false := by
  cases rest with
  | nil => exact ⟨rfl, rfl, rfl, rfl⟩
  | cons c rest =>
    obtain ⟨hc, _⟩ := isNameChar_of_breaks (hrest c rfl)
    have hne : ∀ d, isNameChar d = true → c ≠ d := fun d hd => (Text.ne_of_class hd hc).symm
    refine ⟨isDigit_of_isNameChar hc, ?_, ?_, isNameStart_of_isNameChar hc⟩
    · rw [spanFraction]
      rintro d rest' ⟨⟩
      exact hne '.' (by decide) rfl
    · unfold spanExponent
      dsimp only
      rw [if_neg (not_or.mpr ⟨hne 'e' (by decide), hne 'E' (by decide)⟩)]

/-- A run of digits, with or without a sign, is an integer where a break follows. -/
theorem scanNumber_append {sign : Text} (hsign : sign = [] ∨ sign = ['-']) (hne : digits ≠ [])
    (hd : ∀ c ∈ digits, c.isDigit = true) (hrest : Breaks rest) :
    scanNumber (sign ++ digits ++ rest) =
      (integerKind (!sign.isEmpty) digits, sign ++ digits) := by
  obtain ⟨hdigit, hfraction, hexponent, hname⟩ := breaks_head hrest
  have hspan := Decimal.spanDigits_append hd hdigit
  rcases hsign with rfl | rfl
  · unfold scanNumber
    split
    rename_i heq
    split at heq
    · -- no run of digits begins with a sign
      rename_i h
      obtain ⟨c, tail, rfl⟩ := List.exists_cons_of_ne_nil hne
      cases h
      exact absurd (hd '-' List.mem_cons_self) (by decide)
    · cases heq
      simp [hspan, hfraction, hexponent, hname]
  · simp [scanNumber, hspan, hfraction, hexponent, hname]

theorem scans_digits {sign : Text} (hsign : sign = [] ∨ sign = ['-']) (hne : digits ≠ [])
    (hd : ∀ c ∈ digits, c.isDigit = true) (hrest : Breaks rest) :
    Scans (sign ++ digits) (integerKind (!sign.isEmpty) digits) rest := by
  have hnumber := scanNumber_append hsign hne hd hrest
  obtain ⟨d, tail, rfl⟩ := List.exists_cons_of_ne_nil hne
  have hdigit := hd d List.mem_cons_self
  rcases hsign with rfl | rfl
  · refine ⟨d, tail, rfl, ?_, ?_⟩
    · rw [← Bool.not_eq_true]
      intro hb
      rw [Text.isDigit_of_isBlank hb] at hdigit
      cases hdigit
    · rw [scan, if_neg (Text.ne_of_class hdigit (by decide)),
        if_neg (Text.ne_of_class hdigit (by decide)), if_neg (Text.ne_of_class hdigit (by decide)),
        if_pos (by simp [hdigit])]
      rw [List.nil_append, List.cons_append] at hnumber
      rw [hnumber]
      rfl
  · refine ⟨'-', d :: tail, rfl, by decide, ?_⟩
    rw [scan, if_neg (by decide), if_neg (by decide), if_neg (by decide),
      if_pos (by simp [hdigit])]
    rw [List.cons_append, List.nil_append, List.cons_append] at hnumber
    rw [hnumber]
    rfl

theorem integerKind_natAbs (n : Int64) :
    integerKind (decide (n.toInt < 0)) (Text.ofNat n.toInt.natAbs) = .integer n := by
  have hmin := n.le_toInt
  have hmax := n.toInt_lt
  unfold integerKind
  rw [Text.digitsValue_ofNat]
  by_cases hn : n.toInt < 0
  · have habs : -(n.toInt.natAbs : Int) = n.toInt := by omega
    simp only [hn, decide_true, if_true]
    rw [if_pos (by omega), habs, Int64.ofInt_toInt]
  · have habs : (n.toInt.natAbs : Int) = n.toInt := by omega
    simp only [hn, decide_false, Bool.false_eq_true, if_false]
    rw [if_pos (by omega), habs, Int64.ofInt_toInt]

theorem scans_integer (n : Int64) (hrest : Breaks rest) :
    Scans (Text.ofInt n.toInt) (.integer n) rest := by
  have hdigits : ∀ c ∈ Text.ofNat n.toInt.natAbs, c.isDigit = true :=
    fun c hc => Text.isDigit_of_mem_ofNat hc
  have hkind := integerKind_natAbs n
  rw [Text.ofInt]
  split
  · rename_i hn
    rw [decide_eq_true hn] at hkind
    rw [← hkind]
    exact scans_digits (.inr rfl) Nat.toDigits_ne_nil hdigits hrest
  · rename_i hn
    rw [decide_eq_false hn] at hkind
    rw [← hkind]
    exact scans_digits (.inl rfl) Nat.toDigits_ne_nil hdigits hrest

end Numbers

section Strings

variable {c : Char} {t rest : Text}

def doubled (t : Text) : Text :=
  t.flatMap fun c => if c = '\'' then ['\'', '\''] else [c]

theorem quotedContent_close (hrest : rest.head? ≠ some '\'') :
    quotedContent ('\'' :: rest) = some ([], 1) := by
  rw [quotedContent]
  rintro u rfl
  exact hrest rfl

theorem quotedContent_quotes (t : Text) : quotedContent ('\'' :: '\'' :: t) =
    (quotedContent t).map fun (u, n) => ('\'' :: u, n + 2) :=
  rfl

theorem quotedContent_cons (hc : c ≠ '\'') :
    quotedContent (c :: t) = (quotedContent t).map fun (u, n) => (c :: u, n + 1) := by
  rw [quotedContent]
  · exact fun u h _ => hc h
  · exact fun h => hc h

/-- A text with its quotes doubled is read back, up to the quote that no other one follows. -/
theorem quotedContent_doubled (hrest : rest.head? ≠ some '\'') (t : Text) :
    quotedContent (doubled t ++ '\'' :: rest) = some (t, (doubled t).length + 1) := by
  induction t with
  | nil => exact quotedContent_close hrest
  | cons c t ih =>
    rw [doubled, List.flatMap_cons, ← doubled]
    by_cases hc : c = '\''
    · subst hc
      simp only [if_true, List.cons_append, List.nil_append]
      rw [quotedContent_quotes, ih]
      rfl
    · simp only [if_neg hc, List.cons_append, List.nil_append]
      rw [quotedContent_cons hc, ih]
      rfl

theorem scans_quoted (t : Text) (hrest : Breaks rest) : Scans (Text.quoted t) (.string t) rest := by
  have hhead : rest.head? ≠ some '\'' := fun h => (isNameChar_of_breaks (hrest _ h)).2 rfl
  refine ⟨'\'', doubled t ++ ['\''], rfl, by decide, ?_⟩
  rw [scan, if_neg (by decide), if_neg (by decide), if_pos rfl, List.append_assoc,
    List.singleton_append, quotedContent_doubled hhead]
  simp

end Strings

end Lexer

end RequestSql
