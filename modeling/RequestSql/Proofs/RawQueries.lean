import RequestSql.Proofs.Encoding
import RequestSql.Proofs.Stages

namespace RequestSql

namespace Form

/-- Bytes of which some are written as they are and some as a percent sign with two digits. A digit
or a percent sign is never escaped, so no new escape comes about. -/
inductive Escaped : List UInt8 → List UInt8 → Prop where
  | nil : Escaped [] []
  | keep (b : UInt8) {bytes written : List UInt8} (rest : Escaped bytes written) :
    Escaped (b :: bytes) (b :: written)
  | escape {b high low : UInt8} {h l : UInt8} {bytes written : List UInt8}
    (hhigh : hexValue? high = some h) (hlow : hexValue? low = some l) (hvalue : h * 16 + l = b)
    (hpercent : b ≠ 0x25) (hdigit : hexValue? b = none) (rest : Escaped bytes written) :
    Escaped (b :: bytes) (0x25 :: high :: low :: written)

namespace Escaped

variable {bytes written : List UInt8}

theorem refl (bytes : List UInt8) : Escaped bytes bytes := by
  induction bytes with
  | nil => exact .nil
  | cons b bytes ih => exact .keep b ih

theorem append {more moreWritten : List UInt8} (h : Escaped bytes written)
    (hmore : Escaped more moreWritten) : Escaped (bytes ++ more) (written ++ moreWritten) := by
  induction h with
  | nil => exact hmore
  | keep b _ ih => exact .keep b ih
  | escape hhigh hlow hvalue hpercent hdigit _ ih =>
    exact .escape hhigh hlow hvalue hpercent hdigit ih

/-- A digit or a percent sign is written as it is. -/
theorem of_kept {b : UInt8} (hb : b = 0x25 ∨ hexValue? b ≠ none)
    (hw : Escaped (b :: bytes) written) : ∃ rest, written = b :: rest ∧ Escaped bytes rest := by
  cases hw with
  | keep _ rest => exact ⟨_, rfl, rest⟩
  | escape _ _ _ hpercent hdigit _ => simp [hpercent, hdigit] at hb

/-- Two digits are written at the front only where two digits were. -/
theorem digits_kept {high low : UInt8} {tail : List UInt8} (hw : Escaped bytes (high :: low :: tail))
    (hhigh : hexValue? high ≠ none) (hlow : hexValue? low ≠ none) :
    ∃ rest, bytes = high :: low :: rest := by
  -- An escape begins with a percent sign, which is no digit.
  cases hw with
  | keep _ hw =>
    cases hw with
    | keep _ _ => exact ⟨_, rfl⟩
    | escape => exact absurd (by decide) hlow
  | escape => exact absurd (by decide) hhigh

end Escaped

/-- A percent sign stays where no two digits follow it. -/
theorem percentDecode_percent {rest : List UInt8}
    (h : ∀ high low tail, rest = high :: low :: tail →
      hexValue? high = none ∨ hexValue? low = none) :
    percentDecode (0x25 :: rest) = 0x25 :: percentDecode rest := by
  match rest with
  | [] => rfl
  | [b] => rfl
  | high :: low :: tail =>
    rw [percentDecode]
    rcases h high low tail rfl with hx | hx
    · simp [hx]
    · cases hexValue? high <;> simp [hx]

theorem Escaped.percentDecode_percent {bytes written : List UInt8} (h : Escaped bytes written)
    (hfollow : ∀ high low tail, bytes = high :: low :: tail →
      hexValue? high = none ∨ hexValue? low = none) :
    percentDecode (0x25 :: written) = 0x25 :: percentDecode written := by
  apply Form.percentDecode_percent
  rintro high low tail rfl
  by_contra hdigits
  obtain ⟨hhigh, hlow⟩ := not_or.mp hdigits
  obtain ⟨rest, rfl⟩ := h.digits_kept hhigh hlow
  exact hdigits (hfollow high low rest rfl)

/-- Escaped bytes are read as the bytes that they are written for are. -/
theorem Escaped.percentDecode_eq {bytes written : List UInt8} (h : Escaped bytes written) :
    percentDecode written = percentDecode bytes := by
  fun_induction percentDecode bytes generalizing written with
  | case1 =>
    cases h
    rfl
  | case2 high low rest h' l hlow hhigh ih =>
    -- An escape that was there already is kept whole.
    obtain ⟨_, rfl, hdigits⟩ := h.of_kept (.inl rfl)
    obtain ⟨_, rfl, hdigit⟩ := hdigits.of_kept (.inr (by simp [hhigh]))
    obtain ⟨_, rfl, hrest⟩ := hdigit.of_kept (.inr (by simp [hlow]))
    rw [percentDecode, hhigh, hlow]
    simp only [ih hrest]
  | case3 high low rest hstray ih =>
    obtain ⟨_, rfl, hw⟩ := h.of_kept (.inl rfl)
    rw [hw.percentDecode_percent, ih hw]
    intro a b tail heq
    cases heq
    cases hhigh : hexValue? high with
    | none => exact .inl rfl
    | some x =>
      cases hlow : hexValue? low with
      | none => exact .inr rfl
      | some y => exact absurd hlow (hstray x y hhigh)
  | case4 b rest hother ih =>
    cases h with
    | keep _ h =>
      by_cases hb : b = 0x25
      · subst hb
        rw [h.percentDecode_percent, ih h]
        intro high low tail heq
        exact absurd heq (hother high low tail rfl)
      · rw [percentDecode_cons hb, ih h]
    | escape hhigh hlow hvalue _ _ h =>
      rw [percentDecode, hhigh, hlow]
      simp only [hvalue, ih h]

end Form

namespace Utf8

/-- The bytes of a character: its code within ASCII, and above it no byte of ASCII. -/
theorem mem_utf8EncodeChar {c : Char} {b : UInt8} (h : b ∈ String.utf8EncodeChar c) :
    (c.toNat < 0x80 ∧ b = asciiByte c) ∨ 0x80 ≤ b.toNat := by
  have hcode : c.val.toNat = c.toNat := rfl
  have hvalid : c.toNat < 0xD800 ∨ 0xDFFF < c.toNat ∧ c.toNat < 0x110000 := c.valid
  have hbytes := String.utf8EncodeChar.eq_def c
  simp only [hcode] at hbytes
  rw [hbytes] at h
  split at h
  · refine .inl ⟨by omega, ?_⟩
    simpa [asciiByte] using h
  · right
    have hbyte : ∀ n, 0x80 ≤ n → n < 0x100 → 0x80 ≤ (UInt8.ofNat n).toNat := by
      intro n hl hh
      rw [UInt8.toNat_ofNat_of_lt' hh]
      exact hl
    split at h
    · simp only [List.mem_cons, List.not_mem_nil, or_false] at h
      rcases h with rfl | rfl
      · exact hbyte _ (by omega) (by omega)
      · exact hbyte _ (by omega) (by omega)
    · split at h
      · simp only [List.mem_cons, List.not_mem_nil, or_false] at h
        rcases h with rfl | rfl | rfl
        all_goals exact hbyte _ (by omega) (by omega)
      · simp only [List.mem_cons, List.not_mem_nil, or_false] at h
        rcases h with rfl | rfl | rfl | rfl
        all_goals exact hbyte _ (by omega) (by omega)

end Utf8

namespace Text

variable {f : Char → Text} {sep : Char}

/-- Replacing characters one by one keeps where a text is split, if it keeps the separators. -/
theorem splitOn_flatMap (hsep : f sep = [sep]) (hf : ∀ c, c ≠ sep → sep ∉ f c) (t : Text) :
    splitOn sep (t.flatMap f) = (splitOn sep t).map (·.flatMap f) := by
  induction t with
  | nil => rfl
  | cons c t ih =>
    rw [splitOn] at ih
    by_cases hc : c = sep
    · subst hc
      simp [splitOn, splitBy, hsep, ih]
    · have hpiece : ∀ d ∈ f c, (d == sep) = false := by
        intro d hd
        exact beq_eq_false_iff_ne.mpr fun hds => hf c hc (hds ▸ hd)
      have hcons : splitBy (· == sep) (c :: t) = (splitBy (· == sep) t).modifyHead (c :: ·) :=
        splitBy_cons_false (p := (· == sep)) (beq_eq_false_iff_ne.mpr hc) t
      rw [splitOn, List.flatMap_cons, splitBy_append hpiece, ih, splitOn, splitOn, hcons]
      cases splitBy (· == sep) t <;> simp

/-- Replacing characters one by one keeps where a text is cut, if it keeps the separators. -/
theorem cut_flatMap (hsep : f sep = [sep]) (hf : ∀ c, c ≠ sep → sep ∉ f c) (t : Text) :
    cut sep (t.flatMap f) =
      (cut sep t).map fun (before, after) => (before.flatMap f, after.flatMap f) := by
  have hskip : ∀ u v : Text, sep ∉ u →
      cut sep (u ++ v) = (cut sep v).map fun (before, after) => (u ++ before, after) := by
    intro u v hu
    induction u with
    | nil => simp
    | cons d u ih =>
      simp only [List.mem_cons, not_or] at hu
      simp [cut, Ne.symm hu.1, ih hu.2, Function.comp_def]
  induction t with
  | nil => rfl
  | cons c t ih =>
    by_cases hc : c = sep
    · subst hc
      simp [cut, hsep]
    · rw [List.flatMap_cons, hskip _ _ (hf c hc), ih, cut, if_neg hc]
      simp [Function.comp_def]

end Text

namespace Url

def encodeByte (b : UInt8) : Text :=
  if isQueryByte b then [Char.ofNat b.toNat]
  else ['%', hexDigit (b.toNat / 16), hexDigit (b.toNat % 16)]

def encodeChar (c : Char) : Text :=
  (String.utf8EncodeChar c).flatMap encodeByte

theorem encodeQuery_eq (q : Text) : encodeQuery q = q.flatMap encodeChar := by
  rw [encodeQuery, Utf8.encode, List.flatMap_assoc]
  rfl

theorem isQueryByte_of_high {b : UInt8} (h : 0x80 ≤ b.toNat) : isQueryByte b = false := by
  have hb : ¬ b < 0x7F := by
    intro hb
    have hb : b.toNat < 0x7F := hb
    omega
  simp [isQueryByte, hb]

/-- A character that a URL can hold is written as it is; of any other every byte is escaped. -/
theorem encodeChar_cases (c : Char) :
    (isQueryChar c = true ∧ encodeChar c = [c]) ∨
      (isQueryChar c = false ∧ ∀ b ∈ String.utf8EncodeChar c, isQueryByte b = false) := by
  cases hc : isQueryChar c with
  | true =>
    have hself : encodeQuery [c] = [c] := encodeQuery_eq_self (by simp [hc])
    rw [encodeQuery_eq] at hself
    exact .inl ⟨rfl, by simpa using hself⟩
  | false =>
    refine .inr ⟨rfl, fun b hb => ?_⟩
    rcases Utf8.mem_utf8EncodeChar hb with ⟨hascii, rfl⟩ | hhigh
    · simpa [isQueryChar, hascii] using hc
    · exact isQueryByte_of_high hhigh

/-- An escape is made of a percent sign and two digits. -/
theorem encodeByte_isCodeChar {b : UInt8} (hq : isQueryByte b = false) :
    ∀ c ∈ encodeByte b, Form.isCodeChar c = true := by
  have hb := b.toNat_lt
  rw [encodeByte, if_neg (by simp [hq])]
  simp only [List.forall_mem_cons, List.not_mem_nil, false_implies, implies_true, and_true]
  exact ⟨by decide, (Form.hexDigit_readBack (by omega)).1, (Form.hexDigit_readBack (by omega)).1⟩

/-- A separator is written for itself and for nothing else. -/
theorem encodeChar_separator {sep : Char} (hsep : sep = '&' ∨ sep = '=') :
    encodeChar sep = [sep] ∧ ∀ c, c ≠ sep → sep ∉ encodeChar c := by
  have hcode : isQueryChar sep = true ∧ Form.isCodeChar sep = false := by
    rcases hsep with rfl | rfl <;> decide
  constructor
  · rcases encodeChar_cases sep with ⟨_, h⟩ | ⟨h, _⟩
    · exact h
    · simp [h] at hcode
  · intro c hc hm
    rcases encodeChar_cases c with ⟨_, h⟩ | ⟨_, hbytes⟩
    · rw [h, List.mem_singleton] at hm
      exact hc hm.symm
    · obtain ⟨b, hb, hm⟩ := List.mem_flatMap.mp hm
      simp [encodeByte_isCodeChar (hbytes b hb) sep hm] at hcode

theorem encodeChar_ne_nil (c : Char) : encodeChar c ≠ [] := by
  have hbyte : ∀ b, encodeByte b ≠ [] := by
    intro b
    rw [encodeByte]
    split <;> simp
  intro h
  obtain ⟨b, hb⟩ := List.exists_mem_of_ne_nil _ (String.utf8EncodeChar_ne_nil (c := c))
  exact hbyte b (List.flatMap_eq_nil_iff.mp h b hb)

/-- Percent signs and digits are never escaped. -/
theorem isQueryByte_of_kept {b : UInt8} (h : b = 0x25 ∨ Form.hexValue? b ≠ none) :
    isQueryByte b = true := by
  have hall : (List.range 256).all fun n => isQueryByte (UInt8.ofNat n) ||
      (UInt8.ofNat n != 0x25 && (Form.hexValue? (UInt8.ofNat n)).isNone) := by decide +kernel
  have hb := List.all_eq_true.mp hall b.toNat (List.mem_range.mpr b.toNat_lt)
  rw [UInt8.ofNat_toNat] at hb
  cases hq : isQueryByte b with
  | true => rfl
  | false =>
    simp only [hq, Bool.false_or, Bool.and_eq_true, bne_iff_ne, Option.isNone_iff_eq_none] at hb
    rcases h with h | h
    · exact absurd h hb.1
    · exact absurd hb.2 h

/-- The bytes of an escape are an escape for the byte. -/
theorem escaped_encodeByte {b : UInt8} (hq : isQueryByte b = false) :
    Form.Escaped [b] (Utf8.encode ((encodeByte b).map Form.spaced)) := by
  have hb := b.toNat_lt
  have hhigh := Form.hexDigit_readBack (show b.toNat / 16 < 16 by omega)
  have hlow := Form.hexDigit_readBack (show b.toNat % 16 < 16 by omega)
  have hkept : ¬ (b = 0x25 ∨ Form.hexValue? b ≠ none) := by
    intro h
    simp [isQueryByte_of_kept h] at hq
  simp only [not_or, not_not] at hkept
  have hvalue : UInt8.ofNat (b.toNat / 16) * 16 + UInt8.ofNat (b.toNat % 16) = b := by
    apply UInt8.toNat_inj.mp
    simp
    omega
  have hascii : ∀ c ∈ (encodeByte b).map Form.spaced, c.toNat < 0x80 :=
    Form.spaced_ascii fun c hc => Form.isQueryChar_of_isCodeChar (encodeByte_isCodeChar hq c hc)
  rw [Utf8.encode_ascii hascii, encodeByte, if_neg (by simp [hq])]
  exact .escape hhigh.2 hlow.2 hvalue hkept.1 hkept.2 .nil

theorem escaped_encodeChar (c : Char) :
    Form.Escaped (Utf8.encode [Form.spaced c]) (Utf8.encode ((encodeChar c).map Form.spaced)) := by
  rcases encodeChar_cases c with ⟨_, h⟩ | ⟨hc, hbytes⟩
  · rw [h]
    exact .refl _
  · have hspaced : Form.spaced c = c := by
      refine if_neg ?_
      rintro rfl
      exact absurd hc (by decide)
    rw [hspaced, encodeChar]
    change Form.Escaped ([c].flatMap String.utf8EncodeChar) _
    rw [List.flatMap_singleton]
    generalize String.utf8EncodeChar c = bytes at hbytes
    induction bytes with
    | nil => exact .nil
    | cons b bytes ih =>
      obtain ⟨hb, hbytes⟩ := List.forall_mem_cons.mp hbytes
      rw [List.flatMap_cons, List.map_append, Utf8.encode, List.flatMap_append]
      exact (escaped_encodeByte hb).append (ih hbytes)

theorem escaped_encodeQuery (t : Text) :
    Form.Escaped (Utf8.encode (t.map Form.spaced))
      (Utf8.encode ((encodeQuery t).map Form.spaced)) := by
  rw [encodeQuery_eq]
  induction t with
  | nil => exact .nil
  | cons c t ih =>
    rw [List.flatMap_cons, List.map_append, Utf8.encode, Utf8.encode, List.flatMap_append,
      List.map_cons, ← List.singleton_append, List.flatMap_append]
    exact (escaped_encodeChar c).append ih

end Url

namespace Form

theorem decode_encodeQuery (t : Text) : decode (Url.encodeQuery t) = decode t := by
  change Utf8.decodeLossy (percentDecode (Utf8.encode ((Url.encodeQuery t).map spaced))) = _
  rw [(Url.escaped_encodeQuery t).percentDecode_eq]
  rfl

theorem decodePair_encodeQuery (piece : Text) :
    decodePair (Url.encodeQuery piece) = decodePair piece := by
  obtain ⟨hsep, hother⟩ := Url.encodeChar_separator (.inr rfl)
  rw [decodePair, decodePair, Url.encodeQuery_eq, Text.cut_flatMap hsep hother]
  cases Text.cut '=' piece with
  | none => simp [← Url.encodeQuery_eq, decode_encodeQuery]
  | some pair => simp [← Url.encodeQuery_eq, decode_encodeQuery]

/-- The pairs of a query are those of the query in a URL. -/
theorem parse_encodeQuery (q : Text) : parse (Url.encodeQuery q) = parse q := by
  obtain ⟨hsep, hother⟩ := Url.encodeChar_separator (.inl rfl)
  have hempty : ∀ t : Text, (t.flatMap Url.encodeChar).isEmpty = t.isEmpty := by
    intro t
    cases t <;> simp [Url.encodeChar_ne_nil]
  have hpair : ∀ t : Text, decodePair (t.flatMap Url.encodeChar) = decodePair t := by
    intro t
    rw [← Url.encodeQuery_eq, decodePair_encodeQuery]
  rw [parse, parse, Url.encodeQuery_eq, Text.splitOn_flatMap hsep hother, List.filter_map,
    List.map_map]
  simp [Function.comp_def, hempty, hpair]

end Form

/-- A query says the same by itself, after a question mark, and in a URL on the base, where it may
hold characters that a URL cannot. -/
theorem query_agrees_with_url (o : Options) {q : Text} (hfragment : '#' ∉ q)
    (hbreaks : '\t' ∉ q ∧ '\n' ∉ q ∧ '\r' ∉ q) (hlast : ∀ c ∈ q.getLast?, ' ' < c) :
    (∃ p, Source.toParams (.query ('?' :: q)) = .ok p ∧
      Source.toParams (.url ("/t?".toList ++ q)) = .ok p) ∧
    compile o (.query ('?' :: q)) = compile o (.url ("/t?".toList ++ q)) := by
  have hclean : Url.clean ("/t?".toList ++ q) = "/t?".toList ++ q := by
    apply Url.clean_of_edges
    · simp
    · intro c hc
      rw [List.getLast?_append] at hc
      cases hq : q.getLast? with
      | none =>
        have hmark : '?' = c := by simpa [hq] using hc
        subst hmark
        decide
      | some d => exact hlast c (by simpa [hq] using hc)
    · simpa using hbreaks
  have hurl : Source.toParams (.url ("/t?".toList ++ q)) = .ok ⟨Form.parse q⟩ := by
    rw [Source.toParams, Url.query_of_clean hclean hfragment]
    simp only [Form.parse_encodeQuery]
  refine ⟨⟨⟨Form.parse q⟩, rfl, hurl⟩, ?_⟩
  rw [compile, compile, hurl]
  rfl

/-- A quote, a space, a letter above ASCII, a stray percent sign and an escape that is no character,
side by side, after an extra question mark. -/
theorem query_agrees_with_url_orders :
    ∃ q, compile .orders (.url ("/t?".toList ++ "?x&&$filter=name eq 'é%4\"+%C3'&$top=%31".toList)) =
        .ok q ∧ q.params = [.text "é%4\" \ufffd".toList] := by
  have hquery : compile .orders
      (.query ('?' :: "?x&&$filter=name eq 'é%4\"+%C3'&$top=%31".toList)) = .ok
      { sql := ("SELECT * FROM orders o LEFT JOIN customers c ON c.id = o.customer AND " ++
          "c.kind <> 'guest' WHERE c.name = $1 LIMIT 1").toList
        params := [.text "é%4\" \ufffd".toList] } := by decide +kernel
  have hlast : "?x&&$filter=name eq 'é%4\"+%C3'&$top=%31".toList.getLast? = some '1' := by
    decide +kernel
  obtain ⟨_, hagree⟩ := query_agrees_with_url .orders
    (q := "?x&&$filter=name eq 'é%4\"+%C3'&$top=%31".toList) (by decide) (by decide)
    (by rw [hlast]; rintro c ⟨⟩; decide)
  exact ⟨_, hagree.symm.trans hquery, rfl⟩

end RequestSql
