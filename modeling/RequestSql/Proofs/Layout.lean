import Mathlib.Logic.Relation
import RequestSql.Filter.Parser
import RequestSql.Proofs.Tiling

namespace RequestSql

open Text (isBlank isNameStart isNamePart)

section Lookahead

theorem Text.toNat_toLower (c : Char) : c.toLower.toNat =
    if 65 ≤ c.toNat ∧ c.toNat ≤ 90 then c.toNat + 32 else c.toNat := by
  unfold Char.toLower
  split
  · rename_i hc
    have hlow : 65 ≤ c.toNat := UInt32.le_iff_toNat_le.mp hc.1
    have hhigh : c.toNat ≤ 90 := UInt32.le_iff_toNat_le.mp hc.2
    have hsum : (c.val + ('a'.val - 'A'.val)).toNat = (c.toNat + 32) % 2 ^ 32 := UInt32.toNat_add _ _
    rw [if_pos ⟨hlow, hhigh⟩]
    change (c.val + ('a'.val - 'A'.val)).toNat = c.toNat + 32
    omega
  · rename_i hc
    rw [if_neg]
    intro h
    exact hc ⟨UInt32.le_iff_toNat_le.mpr h.1, UInt32.le_iff_toNat_le.mpr h.2⟩

/-- Two characters that differ only in case are letters. -/
theorem Text.eq_or_isAlpha {c d : Char} (h : d.toLower = c.toLower) :
    d = c ∨ c.isAlpha = true ∧ d.isAlpha = true := by
  have hcode := congrArg Char.toNat h
  rw [toNat_toLower, toNat_toLower] at hcode
  rw [isAlpha_iff, isAlpha_iff, ← Char.toNat_inj]
  split at hcode <;> split at hcode <;> omega

/-- A class of characters that a token can look ahead for. White space is not in it, and the case of
a letter does not matter to it. -/
structure Lookahead (p : Char → Bool) : Prop where
  blank : ∀ {c}, isBlank c = true → p c = false
  recased : ∀ {c d}, d.toLower = c.toLower → p d = p c

/-- A class that all letters belong to, or none. -/
theorem lookahead_of_letters {p : Char → Bool} {b : Bool} (blank : ∀ {c}, isBlank c = true → p c = false)
    (letters : ∀ {c : Char}, c.isAlpha = true → p c = b) : Lookahead p where
  blank := blank
  recased h := by
    rcases Text.eq_or_isAlpha h with rfl | ⟨hc, hd⟩
    · rfl
    · rw [letters hc, letters hd]

theorem lookahead_isNamePart : Lookahead isNamePart := by
  refine lookahead_of_letters (b := true) ?_ ?_
  · intro c hc
    have hname := (Lexer.isNameChar_of_breaks (.inl hc)).1
    rw [Text.isNameChar, Bool.or_eq_false_iff] at hname
    exact hname.1
  · intro c hc
    simp [isNamePart, Text.isAlphanumeric, Text.isAlphabetic_of_isAlpha hc]

theorem lookahead_isNameStart : Lookahead isNameStart := by
  refine lookahead_of_letters (b := true) ?_ ?_
  · intro c hc
    exact Lexer.isNameStart_of_isNameChar (Lexer.isNameChar_of_breaks (.inl hc)).1
  · intro c hc
    simp [isNameStart, Text.isAlphabetic_of_isAlpha hc]

theorem lookahead_isDigit : Lookahead Char.isDigit := by
  refine lookahead_of_letters (b := false) Text.isDigit_of_isBlank ?_
  intro c hc
  rw [← Bool.not_eq_true, Text.isDigit_iff]
  rw [Text.isAlpha_iff] at hc
  omega

/-- A sign or a mark is looked for as it stands. -/
theorem lookahead_eq {x : Char} (hblank : isBlank x = false) (halpha : x.isAlpha = false) :
    Lookahead (· == x) := by
  refine lookahead_of_letters (b := false) ?_ ?_
  · intro c hc
    exact beq_eq_false_iff_ne.mpr (Text.ne_of_class hc hblank)
  · intro c hc
    exact beq_eq_false_iff_ne.mpr (Text.ne_of_class hc halpha)

theorem lookahead_power : Lookahead fun c => c == 'e' || c == 'E' where
  blank {c} hc := by
    have he : c ≠ 'e' := Text.ne_of_class hc (by decide)
    have hE : c ≠ 'E' := Text.ne_of_class hc (by decide)
    simp [he, hE]
  recased {c d} h := by
    have hcode := congrArg Char.toNat h
    rw [Text.toNat_toLower, Text.toNat_toLower] at hcode
    rw [Bool.eq_iff_iff]
    simp only [Bool.or_eq_true, beq_iff_eq, ← Char.toNat_inj]
    change (d.toNat = 101 ∨ d.toNat = 69) ↔ (c.toNat = 101 ∨ c.toNat = 69)
    split at hcode <;> split at hcode <;> omega

end Lookahead

/-- A text with white space put in at any place and with letters in any case. -/
inductive Loosened : Text → Text → Prop where
  | nil : Loosened [] []
  | blank {c t t'} (white : isBlank c = true) (more : Loosened t t') : Loosened t (c :: t')
  | char {c d t t'} (same : d.toLower = c.toLower) (more : Loosened t t') :
      Loosened (c :: t) (d :: t')

namespace Loosened

variable {t t' u : Text} {p : Char → Bool}

theorem refl (t : Text) : Loosened t t := by
  induction t with
  | nil => exact .nil
  | cons c t ih => exact .char rfl ih

theorem append_left (h : Loosened t t') (u : Text) : Loosened (u ++ t) (u ++ t') := by
  induction u with
  | nil => exact h
  | cons c u ih => exact .char rfl ih

theorem append_blank (h : Loosened t t') (hu : Text.isAllBlank u = true) : Loosened t (u ++ t') := by
  induction u with
  | nil => exact h
  | cons c u ih =>
    rw [Text.isAllBlank, List.all_cons, Bool.and_eq_true] at hu
    exact .blank hu.1 (ih hu.2)

theorem append_recased {w w' : Text} (h : Loosened t t')
    (hw : Text.asciiLower w' = Text.asciiLower w) : Loosened (w ++ t) (w' ++ t') := by
  induction w generalizing w' with
  | nil =>
    obtain rfl := List.map_eq_nil_iff.mp hw
    exact h
  | cons c w ih =>
    obtain ⟨d, w', rfl, hd, hw⟩ := List.map_eq_cons_iff.mp hw
    exact .char hd (ih hw)

/-- The text begins with nothing that it did not begin with before. -/
theorem head (h : Loosened t t') (hp : Lookahead p) (ht : t.head?.any p = false) :
    t'.head?.any p = false := by
  cases h with
  | nil => rfl
  | blank white _ => exact hp.blank white
  | char same _ => exact (hp.recased same).trans ht

theorem head_ne (h : Loosened t t') {x : Char} (hp : Lookahead (· == x)) (ht : t.head? ≠ some x) :
    t'.head? ≠ some x := by
  cases h with
  | nil => exact ht
  | blank white _ =>
    intro hhead
    have hx := hp.blank white
    cases hhead
    simp at hx
  | char same _ =>
    intro hhead
    have hx := hp.recased same
    cases hhead
    apply ht
    simpa using hx.symm

theorem second (h : Loosened t t') (hp : Lookahead p)
    (ht : ¬(t.head? = some '.' ∧ t.tail.head?.any p = true)) :
    ¬(t'.head? = some '.' ∧ t'.tail.head?.any p = true) := by
  have hpoint : Lookahead (· == '.') := lookahead_eq (by decide) (by decide)
  rintro ⟨hhead, hnext⟩
  have hfirst : t.head? = some '.' := by
    by_contra hne
    exact h.head_ne hpoint hne hhead
  cases h with
  | nil => cases hhead
  | blank white _ =>
    cases hhead
    exact absurd white (by decide)
  | char _ more =>
    have hsecond := more.head hp (by simpa [hfirst] using ht)
    rw [List.tail_cons, hsecond] at hnext
    cases hnext

end Loosened

namespace Lexer

variable {rest rest' : Text}

theorem DigitRun.apart {digits : Text} (h : DigitRun digits rest) :
    rest.head?.any Char.isDigit = false := by
  have hdrop : (digits ++ rest).dropWhile Char.isDigit = rest := congrArg Prod.snd h
  have hhead := List.head?_dropWhile_not Char.isDigit (digits ++ rest)
  rw [hdrop] at hhead
  cases rest with
  | nil => rfl
  | cons c rest => simpa using hhead

theorem DigitRun.loosened {digits : Text} (h : DigitRun digits rest) (hl : Loosened rest rest') :
    DigitRun digits rest' :=
  Decimal.spanDigits_append (fun _ hc => h.isDigit_of_mem hc) (hl.head lookahead_isDigit h.apart)

theorem Fraction.loosened {fraction : Text} (h : Fraction fraction rest)
    (hl : Loosened rest rest') : Fraction fraction rest' := by
  cases h with
  | absent unpointed => exact .absent (hl.second lookahead_isDigit unpointed)
  | present nonempty run => exact .present nonempty (run.loosened hl)

theorem ExponentSign.loosened {sign : Text} (h : ExponentSign sign rest)
    (hl : Loosened rest rest') : ExponentSign sign rest' := by
  rcases h with h | h | ⟨h, hplus, hminus⟩
  · exact .inl h
  · exact .inr (.inl h)
  · exact .inr (.inr ⟨h, hl.head_ne (lookahead_eq (by decide) (by decide)) hplus,
      hl.head_ne (lookahead_eq (by decide) (by decide)) hminus⟩)

theorem Exponent.loosened {exponent : Text} (h : Exponent exponent rest)
    (hl : Loosened rest rest') : Exponent exponent rest' := by
  cases h with
  | absent unpowered =>
    have hpower (t : Text) : t.head?.any (fun c => c == 'e' || c == 'E') = false ↔
        ¬(t.head? = some 'e' ∨ t.head? = some 'E') := by
      cases t with
      | nil => simp
      | cons c t => simp
    exact .absent ((hpower rest').mp (hl.head lookahead_power ((hpower rest).mpr unpowered)))
  | present letter signed run =>
    exact .present letter (signed.loosened (hl.append_left _)) (run.loosened hl)

theorem NumberParts.loosened {sign whole fraction exponent : Text}
    (h : NumberParts sign whole fraction exponent rest) (hl : Loosened rest rest') :
    NumberParts sign whole fraction exponent rest' where
  sign := by
    rcases h.sign with hs | ⟨hs, hminus⟩
    · exact .inl hs
    · refine .inr ⟨hs, Loosened.head_ne ?_ (lookahead_eq (by decide) (by decide)) hminus⟩
      exact ((hl.append_left _).append_left _).append_left _
  whole := h.whole.loosened ((hl.append_left _).append_left _)
  fraction := h.fraction.loosened (hl.append_left _)
  exponent := h.exponent.loosened hl

theorem nameTail_loosened {tail : Text} (h : nameTail (tail ++ rest) = tail)
    (hl : Loosened rest rest') : nameTail (tail ++ rest') = tail := by
  induction tail with
  | nil =>
    obtain ⟨hpart, hpoint⟩ := nameTail_eq_nil.mp h
    exact nameTail_eq_nil.mpr
      ⟨hl.head lookahead_isNamePart hpart, hl.second lookahead_isNameStart hpoint⟩
  | cons c tail ih =>
    rw [List.cons_append] at h ⊢
    obtain ⟨htail, hc⟩ := nameTail_eq_cons.mp h
    refine nameTail_eq_cons.mpr ⟨ih htail, hc.imp_right ?_⟩
    rintro ⟨hpoint, hstart⟩
    refine ⟨hpoint, ?_⟩
    cases tail with
    | nil =>
      -- the name would have gone on with the letter after the point
      have hpart := (nameTail_eq_nil.mp htail).1
      cases rest with
      | nil => cases hstart
      | cons d rest =>
        have hd : isNamePart d = true := isNamePart_of_isNameStart hstart
        rw [List.nil_append, List.head?_cons, Option.any_some, hd] at hpart
        cases hpart
    | cons d tail => exact hstart

theorem takeWhile_loosened {p : Char → Bool} {w : Text} (hp : Lookahead p)
    (h : (w ++ rest).takeWhile p = w) (hl : Loosened rest rest') :
    (w ++ rest').takeWhile p = w := by
  induction w with
  | nil =>
    have hhead : rest.head?.any p = false := by
      cases rest with
      | nil => rfl
      | cons c rest =>
        cases hc : p c with
        | true => simp [hc] at h
        | false => exact hc
    have hhead' := hl.head hp hhead
    cases rest' with
    | nil => rfl
    | cons c rest' =>
      have hc : ¬p c = true := by simpa using hhead'
      exact List.takeWhile_cons_of_neg hc
  | cons c w ih =>
    cases hc : p c with
    | true =>
      rw [List.cons_append, List.takeWhile_cons_of_pos hc] at h ⊢
      rw [ih (List.cons.inj h).2]
    | false => simp [hc] at h

theorem quotedContent_eq_none {gap : Text} (h : '\'' ∉ gap) : quotedContent gap = none := by
  induction gap with
  | nil => rfl
  | cons c gap ih =>
    rw [List.mem_cons, not_or] at h
    rw [quotedContent_cons (Ne.symm h.1), ih h.2]
    rfl

theorem quotedContent_append {t gap : Text} (h : quotedContent t = none) (hgap : '\'' ∉ gap) :
    quotedContent (t ++ gap) = none := by
  fun_induction quotedContent t with
  | case1 => exact quotedContent_eq_none hgap
  | case2 t ih =>
    rw [List.cons_append, List.cons_append, quotedContent_quotes, ih (Option.map_eq_none_iff.mp h)]
    rfl
  | case3 => cases h
  | case4 c t _ hc ih =>
    rw [List.cons_append, quotedContent_cons hc, ih (Option.map_eq_none_iff.mp h)]
    rfl

/-- A token still ends where it did when what follows it is loosened. Only a string without an end
goes on, with any white space. -/
theorem Scanned.loosened {w : Text} {kind : TokenKind} (h : Scanned w kind rest)
    (hl : Loosened rest rest') : Scanned w kind rest' ∨
      rest = [] ∧ ∀ gap, Text.isAllBlank gap = true → Scanned (w ++ gap) kind [] := by
  cases h with
  | leftParen => exact .inl .leftParen
  | rightParen => exact .inl .rightParen
  | string closed => exact .inl (.string (hl.head_ne (lookahead_eq (by decide) (by decide)) closed))
  | unterminated unclosed =>
    refine .inr ⟨rfl, fun gap hgap => .unterminated (quotedContent_append unclosed ?_)⟩
    intro hquote
    exact absurd (List.all_eq_true.mp hgap _ hquote) (by decide)
  | number parts digits apart =>
    exact .inl (.number (parts.loosened hl) digits (hl.head lookahead_isNameStart apart))
  | malformed parts digits letter maximal =>
    exact .inl (.malformed (parts.loosened (hl.append_left _)) digits letter
      (takeWhile_loosened lookahead_isNamePart maximal hl))
  | name start maximal => exact .inl (.name start (nameTail_loosened maximal hl))
  | unexpected visible symbol number name =>
    refine .inl (.unexpected visible symbol ?_ name)
    rw [Bool.or_eq_false_iff, Bool.and_eq_false_iff] at number ⊢
    exact number.imp_right fun h => h.imp_right fun h => hl.head lookahead_isDigit h

/-- What follows the first character of a name is as long in any case of letters. -/
theorem nameTail_recased {tail tail' : Text} (h : nameTail (tail ++ rest) = tail)
    (same : Text.asciiLower tail' = Text.asciiLower tail) : nameTail (tail' ++ rest) = tail' := by
  induction tail generalizing tail' with
  | nil =>
    obtain rfl := List.map_eq_nil_iff.mp same
    exact h
  | cons c tail ih =>
    obtain ⟨d, tail', rfl, hd, hsame⟩ := List.map_eq_cons_iff.mp same
    rw [List.cons_append] at h ⊢
    obtain ⟨htail, hc⟩ := nameTail_eq_cons.mp h
    refine nameTail_eq_cons.mpr ⟨ih htail hsame, hc.imp ?_ ?_⟩
    · intro hpart
      rw [lookahead_isNamePart.recased hd, hpart]
    · rintro ⟨rfl, hstart⟩
      constructor
      · exact beq_iff_eq.mp ((lookahead_eq (x := '.') (by decide) (by decide)).recased hd)
      · by_contra hnone
        have hloose : Loosened (tail' ++ rest) (tail ++ rest) :=
          (Loosened.refl rest).append_recased (Eq.symm hsame)
        rw [hloose.head lookahead_isNameStart (by simpa using hnone)] at hstart
        cases hstart

theorem nameKind_recased {w w' : Text} {k : Keyword} (h : nameKind w = .keyword k)
    (same : Text.asciiLower w' = Text.asciiLower w) : nameKind w' = .keyword k := by
  have hk : Keyword.ofText? w = some k := by
    unfold nameKind at h
    split at h
    · cases h
    · split at h
      · rename_i hword
        cases h
        exact hword
      · cases h
  have hk' : Keyword.ofText? w' = some k := by
    rw [← hk, Keyword.ofText?, Keyword.ofText?, same]
  have hpoint : '.' ∉ w' := fun hm =>
    absurd (List.all_eq_true.mp (isAlpha_of_ofText hk') '.' hm) (by decide)
  rw [nameKind, if_neg hpoint, hk']

theorem numberKind_ne_keyword (sign whole fraction exponent : Text) (k : Keyword) :
    numberKind sign whole fraction exponent ≠ .keyword k := by
  unfold numberKind integerKind
  dsimp only
  repeat' split
  all_goals nofun

/-- A reserved word is scanned in any case of letters. -/
theorem Scanned.recased {w w' : Text} {k : Keyword} (h : Scanned w (.keyword k) rest)
    (same : Text.asciiLower w' = Text.asciiLower w) : Scanned w' (.keyword k) rest := by
  generalize hkind : TokenKind.keyword k = kind at h
  cases h with
  | number _ _ _ => exact absurd hkind.symm (numberKind_ne_keyword _ _ _ _ k)
  | @name c tail _ start maximal =>
    have hword := nameKind_recased hkind.symm same
    obtain ⟨d, tail', rfl, hd, htail⟩ := List.map_eq_cons_iff.mp same
    rw [hkind.symm.trans (hword.symm)]
    refine .name ?_ (nameTail_recased maximal htail)
    rw [lookahead_isNameStart.recased hd, start]
  | _ => cases hkind

section Kinds

variable {gap w t : Text} {kind : TokenKind}

theorem kinds_append_blank (h : Text.isAllBlank gap = true) (t : Text) : kinds (gap ++ t) = kinds t := by
  rw [kinds, tokens, tokensFrom_blank h, kinds_tokensFrom]
  rfl

theorem kinds_blank (h : Text.isAllBlank gap = true) : kinds gap = [] := by
  have hkinds := kinds_append_blank h []
  rwa [List.append_nil] at hkinds

theorem Scanned.kinds_eq (h : Scanned w kind rest) (hgap : Text.isAllBlank gap = true) :
    kinds (gap ++ w ++ rest) = kind :: kinds rest := by
  rw [List.append_assoc, kinds_append_blank hgap, h.scans.kinds_append]

theorem Tiled.kinds_eq {offset : Nat} {ts : List Token} (h : Tiled offset t ts) :
    kinds t = ts.map Token.kind := by
  induction h with
  | blank white => exact kinds_blank white
  | token white scanned _ ih => rw [scanned.kinds_eq white, ih, List.map_cons]

/-- A loosened text after a token has the kinds of its own tokens only. -/
theorem Scanned.kinds_loosened (h : Scanned w kind rest)
    (hgap : Text.isAllBlank gap = true) (hl : Loosened rest rest')
    (hblank : rest = [] → Text.isAllBlank rest' = true) :
    kinds (gap ++ w ++ rest') = kind :: kinds rest' := by
  rcases h.loosened hl with h' | ⟨hrest, hend⟩
  · exact h'.kinds_eq hgap
  · -- a string without an end takes the white space after it
    have hwhite := hblank hrest
    have hkinds := (hend rest' hwhite).kinds_eq hgap
    rw [List.append_nil, ← List.append_assoc] at hkinds
    rw [hkinds, kinds_blank hwhite]
    rfl

end Kinds

section Edits

/-- Of two fronts of a text the one with fewer bytes is a front of the other. -/
theorem split_of_byteSize_le {a b u v : Text} (h : a ++ b = u ++ v)
    (hle : Text.byteSize a ≤ Text.byteSize u) : ∃ y, u = a ++ y ∧ b = y ++ v := by
  rcases List.append_eq_append_iff.mp h with ⟨y, hu, hb⟩ | ⟨y, ha, hv⟩
  · exact ⟨y, hu, hb⟩
  · have hy : y = [] := by
      by_contra hne
      have hpos := Text.byteSize_pos hne
      rw [ha, Text.byteSize_append] at hle
      omega
    subst hy
    rw [List.append_nil] at ha
    rw [List.nil_append] at hv
    exact ⟨[], by rw [ha, List.append_nil], hv.symm⟩

theorem isAllBlank_append {u v : Text} :
    Text.isAllBlank (u ++ v) = true ↔ Text.isAllBlank u = true ∧ Text.isAllBlank v = true := by
  rw [Text.isAllBlank, List.all_append, Bool.and_eq_true]
  rfl

/-- White space that is put in outside of the tokens does not change their kinds. -/
theorem Tiled.insert_blank {offset : Nat} {t : Text} {ts : List Token} (h : Tiled offset t ts)
    {u v gap : Text} (ht : t = u ++ v)
    (outside : ∀ token ∈ ts, ¬(token.span.start < offset + Text.byteSize u ∧
      offset + Text.byteSize u < token.span.stop))
    (hgap : Text.isAllBlank gap = true) : kinds (u ++ gap ++ v) = ts.map Token.kind := by
  induction h generalizing u with
  | blank white =>
    subst ht
    rw [isAllBlank_append] at white
    exact kinds_blank (isAllBlank_append.mpr ⟨isAllBlank_append.mpr ⟨white.1, hgap⟩, white.2⟩)
  | @token offset before w kind rest ts white scanned more ih =>
    have hplace := outside _ List.mem_cons_self
    dsimp only at hplace
    by_cases hu : Text.byteSize u ≤ Text.byteSize before
    · -- in the white space before the first token
      rw [List.append_assoc] at ht
      obtain ⟨y, rfl, rfl⟩ := split_of_byteSize_le ht.symm hu
      rw [isAllBlank_append] at white
      have hwhite : Text.isAllBlank (u ++ gap ++ y) = true :=
        isAllBlank_append.mpr ⟨isAllBlank_append.mpr ⟨white.1, hgap⟩, white.2⟩
      have hkinds := scanned.kinds_eq hwhite
      rw [more.kinds_eq] at hkinds
      rw [List.map_cons, ← hkinds]
      simp only [List.append_assoc]
    · have hle : Text.byteSize (before ++ w) ≤ Text.byteSize u := by omega
      obtain ⟨y, rfl, rfl⟩ := split_of_byteSize_le ht hle
      have hloose : Loosened (y ++ v) (y ++ (gap ++ v)) :=
        ((Loosened.refl v).append_blank hgap).append_left y
      have hkinds := scanned.kinds_loosened white hloose ?_
      · have hmore := ih rfl ?_
        · rw [List.append_assoc] at hmore
          rw [List.map_cons, ← hmore, ← hkinds]
          simp only [List.append_assoc]
        · intro token hm
          have := outside token (List.mem_cons_of_mem _ hm)
          rw [Text.byteSize_append] at this
          rwa [Nat.add_assoc]
      · intro hnil
        obtain ⟨rfl, rfl⟩ := List.append_eq_nil_iff.mp hnil
        rw [List.nil_append, List.append_nil]
        exact hgap

/-- The letters of a reserved word in another case do not change the kinds of the tokens. -/
theorem Tiled.recase {offset : Nat} {t : Text} {ts : List Token} (h : Tiled offset t ts)
    {u w w' v : Text} {k : Keyword} (ht : t = u ++ w ++ v)
    (hm : ⟨.keyword k, ⟨offset + Text.byteSize u, offset + Text.byteSize (u ++ w)⟩⟩ ∈ ts)
    (same : Text.asciiLower w' = Text.asciiLower w) :
    kinds (u ++ w' ++ v) = ts.map Token.kind := by
  induction h generalizing u with
  | blank _ => cases hm
  | @token offset before x kind rest ts white scanned more ih =>
    rcases List.mem_cons.mp hm with hm | hm
    · -- the first token: its text is the word
      obtain ⟨rfl, hspan⟩ := Token.mk.inj hm
      obtain ⟨hstart, hstop⟩ := Span.mk.inj hspan
      obtain ⟨hbefore, rfl⟩ := Text.append_inj_of_byteSize ht (Nat.add_left_cancel hstop).symm
      obtain ⟨rfl, rfl⟩ := Text.append_inj_of_byteSize hbefore (Nat.add_left_cancel hstart).symm
      rw [(scanned.recased same).kinds_eq white, more.kinds_eq, List.map_cons]
    · have hle : Text.byteSize (before ++ x) ≤ Text.byteSize u := by
        have := (more.bounds hm).1
        dsimp only at this
        omega
      rw [List.append_assoc u] at ht
      obtain ⟨y, rfl, rfl⟩ := split_of_byteSize_le ht hle
      have hloose : Loosened (y ++ (w ++ v)) (y ++ (w' ++ v)) :=
        ((Loosened.refl v).append_recased same).append_left y
      have hkinds := scanned.kinds_loosened white hloose ?_
      · have hmore := ih (List.append_assoc y w v).symm ?_
        · rw [List.append_assoc] at hmore
          rw [List.map_cons, ← hmore, ← hkinds]
          simp only [List.append_assoc]
        · simpa only [Text.byteSize_append, Nat.add_assoc] using hm
      · intro hnil
        obtain ⟨rfl, hword⟩ := List.append_eq_nil_iff.mp hnil
        obtain ⟨rfl, rfl⟩ := List.append_eq_nil_iff.mp hword
        rw [List.map_eq_nil_iff.mp same]
        rfl

end Edits

end Lexer

section Unplaced

def Token.unplaced (t : Token) : Token :=
  ⟨t.kind, ⟨0, 0⟩⟩

namespace Reading

def unplaced (r : Reading) : Reading :=
  { r with outer := r.outer.map fun opened => (⟨0, 0⟩, opened.2) }

variable (r : Reading) (t : Token)

theorem count_unplaced : r.unplaced.count t.unplaced = (r.count t).unplaced := by
  obtain ⟨outer, level, awaiting, depth, comparisons⟩ := r
  obtain ⟨kind, span⟩ := t
  cases awaiting with
  | operand => cases kind <;> rfl
  | _ => rfl

theorem next?_unplaced : r.unplaced.next? t.unplaced = (r.next? t).map unplaced := by
  obtain ⟨outer, level, awaiting, depth, comparisons⟩ := r
  obtain ⟨kind, span⟩ := t
  cases awaiting with
  | operand =>
    cases kind with
    | keyword k =>
      cases k with
      | not =>
        dsimp only [next?, unplaced, Token.unplaced]
        split <;> rfl
      | _ => rfl
    | leftParen | identifier name =>
      dsimp only [next?, unplaced, Token.unplaced]
      split <;> rfl
    | _ => rfl
  | operator field =>
    cases kind with
    | keyword k => cases k <;> rfl
    | _ => rfl
  | literal field op =>
    dsimp only [next?, unplaced, Token.unplaced]
    rw [Option.map_map]
    rfl
  | connective e =>
    cases kind with
    | keyword k => cases k <;> rfl
    | rightParen => cases outer <;> rfl
    | _ => rfl

theorem fault_unplaced : (r.unplaced.complaint t.unplaced).fault = (r.complaint t).fault := by
  obtain ⟨outer, level, awaiting, depth, comparisons⟩ := r
  obtain ⟨kind, span⟩ := t
  cases awaiting with
  | operand | operator field | literal field op =>
    cases kind with
    | keyword k => cases k <;> rfl
    | _ => rfl
  | connective e => cases outer <;> cases kind <;> rfl

theorem result?_unplaced : r.unplaced.result? = r.result? := by
  obtain ⟨outer, level, awaiting, depth, comparisons⟩ := r
  cases awaiting with
  | connective e => cases outer <;> rfl
  | _ => rfl

end Reading

/-- The places of tokens have no part in a run but for the place of an error. -/
theorem Parser.run_unplaced (finish : Token) (r : Reading) (ts : List Token) :
    (run finish.unplaced r.unplaced (ts.map Token.unplaced)).1.mapError SyntaxError.fault =
      (run finish r ts).1.mapError SyntaxError.fault := by
  induction ts generalizing r with
  | nil =>
    simp only [List.map_nil, run, Reading.result?_unplaced]
    cases r.result? with
    | some e => rfl
    | none => exact congrArg Except.error (r.fault_unplaced finish)
  | cons t ts ih =>
    simp only [List.map_cons, run, Reading.count_unplaced, Reading.next?_unplaced]
    cases (r.count t).next? t with
    | some r' => exact ih r'
    | none => exact congrArg Except.error ((r.count t).fault_unplaced t)

/-- Texts with the same kinds of tokens are parsed alike. -/
theorem Filter.parse_of_kinds {t t' : Text} (h : Lexer.kinds t' = Lexer.kinds t) :
    (Filter.parse t').mapError SyntaxError.fault = (Filter.parse t).mapError SyntaxError.fault := by
  have hplain (u : Text) : (Filter.parse u).mapError SyntaxError.fault =
      (Parser.run ⟨.eof, ⟨0, 0⟩⟩ {} ((Lexer.kinds u).map fun kind => ⟨kind, ⟨0, 0⟩⟩)).1.mapError
        SyntaxError.fault := by
    rw [Lexer.kinds, List.map_map]
    exact (Parser.run_unplaced (Lexer.endToken u) {} (Lexer.tokens u)).symm
  rw [hplain t', hplain t, h]

end Unplaced

/-- One edit that leaves the words of a text as they are: white space is put in at a place that is
not inside a token, or the letters of a reserved word change their case. -/
inductive Relaid : Text → Text → Prop where
  | blank {u gap v} (white : Text.isAllBlank gap = true)
      (outside : ∀ token ∈ Lexer.tokens (u ++ v),
        ¬(token.span.start < Text.byteSize u ∧ Text.byteSize u < token.span.stop)) :
      Relaid (u ++ v) (u ++ gap ++ v)
  | recased {u w w' v k}
      (reserved : ⟨.keyword k, ⟨Text.byteSize u, Text.byteSize (u ++ w)⟩⟩ ∈
        Lexer.tokens (u ++ w ++ v))
      (same : Text.asciiLower w' = Text.asciiLower w) :
      Relaid (u ++ w ++ v) (u ++ w' ++ v)

theorem Relaid.kinds_eq {t t' : Text} (h : Relaid t t') : Lexer.kinds t' = Lexer.kinds t := by
  cases h with
  | @blank u _ v white outside =>
    refine (Lexer.tiled_tokensFrom 0 (u ++ v)).insert_blank rfl ?_ white
    rw [Nat.zero_add]
    exact outside
  | @recased u w w' v k reserved same =>
    refine (Lexer.tiled_tokensFrom 0 (u ++ w ++ v)).recase (k := k) rfl ?_ same
    rw [Nat.zero_add, Nat.zero_add]
    exact reserved

theorem kinds_of_relaid {t t' : Text} (h : Relation.ReflTransGen Relaid t t') :
    Lexer.kinds t' = Lexer.kinds t := by
  induction h with
  | refl => rfl
  | tail _ edit ih => exact edit.kinds_eq.trans ih

/-- However a text is laid out and its reserved words are written, its tokens have the same kinds,
and it is the same filter or has the same fault. The message of a fault, what it says was expected
and what it says was found are the same with it; only its place can be another one. -/
theorem parse_relaid {t t' : Text} (h : Relation.ReflTransGen Relaid t t') :
    (Lexer.tokenize t').map Token.kind = (Lexer.tokenize t).map Token.kind ∧
      (Filter.parse t').mapError SyntaxError.fault =
        (Filter.parse t).mapError SyntaxError.fault := by
  have hkinds := kinds_of_relaid h
  refine ⟨?_, Filter.parse_of_kinds hkinds⟩
  rw [Lexer.tokenize, Lexer.tokenize, List.map_append, List.map_append]
  exact congrArg (· ++ [TokenKind.eof]) hkinds

/-- A blank goes between two tokens that nothing keeps apart, and a reserved word into capitals. -/
theorem parse_relaid_touching :
    (Lexer.tokenize "a.b eq 'x'AND c lt -1".toList).map Token.kind =
        (Lexer.tokenize "a.b eq'x'and c lt -1".toList).map Token.kind ∧
      (Filter.parse "a.b eq 'x'AND c lt -1".toList).mapError SyntaxError.fault =
        (Filter.parse "a.b eq'x'and c lt -1".toList).mapError SyntaxError.fault := by
  have hblank : Relaid ("a.b eq".toList ++ "'x'and c lt -1".toList)
      ("a.b eq".toList ++ " ".toList ++ "'x'and c lt -1".toList) :=
    .blank (by decide) (by decide)
  have hcase : Relaid ("a.b eq 'x'".toList ++ "and".toList ++ " c lt -1".toList)
      ("a.b eq 'x'".toList ++ "AND".toList ++ " c lt -1".toList) :=
    .recased (k := .and) (by decide) (by decide)
  exact parse_relaid (.tail (.single hblank) hcase)

end RequestSql
