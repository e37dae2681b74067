import RequestSql.Proofs.Spacing
import RequestSql.Request.Url

namespace RequestSql

namespace Utf8

variable {rest : List UInt8}

theorem decodeFrom_cons (s : State) (b : UInt8) :
    decodeFrom s (b :: rest) = (step s b.toNat).1 ++ decodeFrom (step s b.toNat).2 rest := by
  cases s <;> rfl

theorem decodeFrom_ofNat (s : State) {n : Nat} (h : n < 256) :
    decodeFrom s (UInt8.ofNat n :: rest) = (step s n).1 ++ decodeFrom (step s n).2 rest := by
  rw [decodeFrom_cons, UInt8.toNat_ofNat_of_lt' h]

/-- A byte that continues a character and does not end it. -/
theorem step_continue {bits owed low high b : Nat} (hl : low ≤ b) (hh : b ≤ high) (ho : owed ≠ 1) :
    step (.inside bits owed low high) b =
      ([], .inside (bits * 64 + (b - 0x80)) (owed - 1) 0x80 0xBF) := by
  simp [step, hl, hh, ho]

/-- A byte that ends a character. -/
theorem step_end {bits low high b : Nat} (hl : low ≤ b) (hh : b ≤ high) :
    step (.inside bits 1 low high) b = ([Char.ofNat (bits * 64 + (b - 0x80))], .start) := by
  simp [step, hl, hh]

theorem first_of_two {b : Nat} (hl : 0xC2 ≤ b) (hh : b ≤ 0xDF) :
    first b = ([], .inside (b - 0xC0) 1 0x80 0xBF) := by
  rw [first, if_neg (by omega), if_pos ⟨hl, hh⟩]

/-- The first byte of three excludes what two bytes can write and the surrogates. -/
theorem first_of_three {b : Nat} (hl : 0xE0 ≤ b) (hh : b ≤ 0xEF) :
    first b = ([], .inside (b - 0xE0) 2 (if b = 0xE0 then 0xA0 else 0x80)
      (if b = 0xED then 0x9F else 0xBF)) := by
  rw [first, if_neg (by omega), if_neg (by omega)]
  by_cases h0 : b = 0xE0
  · subst h0
    rfl
  · by_cases hd : b = 0xED
    · subst hd
      rfl
    · rw [if_neg h0, if_neg hd, if_pos (by omega), if_neg h0, if_neg hd]

/-- The first byte of four excludes what three bytes can write and codes that are too large. -/
theorem first_of_four {b : Nat} (hl : 0xF0 ≤ b) (hh : b ≤ 0xF4) :
    first b = ([], .inside (b - 0xF0) 3 (if b = 0xF0 then 0x90 else 0x80)
      (if b = 0xF4 then 0x8F else 0xBF)) := by
  rw [first, if_neg (by omega), if_neg (by omega), if_neg (by omega), if_neg (by omega),
    if_neg (by omega)]
  by_cases h0 : b = 0xF0
  · subst h0
    rfl
  · by_cases h4 : b = 0xF4
    · subst h4
      rfl
    · rw [if_neg h0, if_neg h4, if_pos (by omega), if_neg h0, if_neg h4]

theorem decode_one {n : Nat} (h : n ≤ 0x7F) :
    decodeFrom .start (UInt8.ofNat n :: rest) = Char.ofNat n :: decodeFrom .start rest := by
  rw [decodeFrom_ofNat _ (by omega), step, first, if_pos h]
  rfl

theorem decode_two {n : Nat} (hl : 0x80 ≤ n) (hh : n ≤ 0x7FF) :
    decodeFrom .start (UInt8.ofNat (n / 64 % 32 + 192) :: UInt8.ofNat (n % 64 + 128) :: rest) =
      Char.ofNat n :: decodeFrom .start rest := by
  rw [decodeFrom_ofNat _ (by omega), step, first_of_two (by omega) (by omega),
    decodeFrom_ofNat _ (by omega), step_end (by omega) (by omega)]
  have hn : (n / 64 % 32 + 192 - 0xC0) * 64 + (n % 64 + 128 - 0x80) = n := by omega
  rw [hn]
  rfl

theorem decode_three {n : Nat} (hl : 0x800 ≤ n) (hh : n ≤ 0xFFFF) (hs : n < 0xD800 ∨ 0xDFFF < n) :
    decodeFrom .start (UInt8.ofNat (n / 4096 % 16 + 224) :: UInt8.ofNat (n / 64 % 64 + 128) ::
      UInt8.ofNat (n % 64 + 128) :: rest) = Char.ofNat n :: decodeFrom .start rest := by
  rw [decodeFrom_ofNat _ (by omega), step, first_of_three (by omega) (by omega),
    decodeFrom_ofNat _ (by omega),
    step_continue (by split <;> omega) (by split <;> omega) (by omega),
    decodeFrom_ofNat _ (by omega), step_end (by omega) (by omega)]
  have hn : ((n / 4096 % 16 + 224 - 0xE0) * 64 + (n / 64 % 64 + 128 - 0x80)) * 64 +
      (n % 64 + 128 - 0x80) = n := by omega
  rw [hn]
  rfl

theorem decode_four {n : Nat} (hl : 0x10000 ≤ n) (hh : n ≤ 0x10FFFF) :
    decodeFrom .start (UInt8.ofNat (n / 262144 % 8 + 240) :: UInt8.ofNat (n / 4096 % 64 + 128) ::
      UInt8.ofNat (n / 64 % 64 + 128) :: UInt8.ofNat (n % 64 + 128) :: rest) =
      Char.ofNat n :: decodeFrom .start rest := by
  rw [decodeFrom_ofNat _ (by omega), step, first_of_four (by omega) (by omega),
    decodeFrom_ofNat _ (by omega),
    step_continue (by split <;> omega) (by split <;> omega) (by omega),
    decodeFrom_ofNat _ (by omega), step_continue (by omega) (by omega) (by omega),
    decodeFrom_ofNat _ (by omega), step_end (by omega) (by omega)]
  have hn : (((n / 262144 % 8 + 240 - 0xF0) * 64 + (n / 4096 % 64 + 128 - 0x80)) * 64 +
      (n / 64 % 64 + 128 - 0x80)) * 64 + (n % 64 + 128 - 0x80) = n := by omega
  rw [hn]
  rfl

/-- The bytes of a character are read as that character, whatever follows them. -/
theorem decodeFrom_char (c : Char) :
    decodeFrom .start (String.utf8EncodeChar c ++ rest) = c :: decodeFrom .start rest := by
  have hvalid : c.toNat < 0xD800 ∨ 0xDFFF < c.toNat ∧ c.toNat < 0x110000 := c.valid
  have hcode : c.val.toNat = c.toNat := rfl
  have hbytes := String.utf8EncodeChar.eq_def c
  simp only [hcode] at hbytes
  rw [hbytes]
  conv_rhs => rw [← Char.ofNat_toNat c]
  -- The cases are the four lengths that the bytes of a character have.
  split
  · exact decode_one ‹_›
  · split
    · exact decode_two (by omega) ‹_›
    · split
      · exact decode_three (by omega) ‹_› (by omega)
      · exact decode_four (by omega) (by omega)

/-- The bytes of a text are read as that text. -/
theorem decodeLossy_encode (t : Text) : decodeLossy (encode t) = t := by
  rw [decodeLossy, encode]
  induction t with
  | nil => rfl
  | cons c t ih => rw [List.flatMap_cons, decodeFrom_char, ih]

def asciiByte (c : Char) : UInt8 :=
  UInt8.ofNat c.toNat

theorem toNat_asciiByte {c : Char} (h : c.toNat < 0x80) : (asciiByte c).toNat = c.toNat :=
  UInt8.toNat_ofNat_of_lt' (Nat.lt_trans h (by decide))

theorem encode_ascii {t : Text} (h : ∀ c ∈ t, c.toNat < 0x80) : encode t = t.map asciiByte := by
  rw [encode]
  induction t with
  | nil => rfl
  | cons c t ih =>
    obtain ⟨hc, ht⟩ := List.forall_mem_cons.mp h
    have hbytes : String.utf8EncodeChar c = [asciiByte c] := if_pos (Nat.le_of_lt_succ hc)
    rw [List.flatMap_cons, hbytes, ih ht]
    rfl

end Utf8

namespace Text

theorem cut_eq_none {sep : Char} {t : Text} (h : sep ∉ t) : cut sep t = none := by
  induction t with
  | nil => rfl
  | cons c t ih =>
    simp only [List.mem_cons, not_or] at h
    simp [cut, Ne.symm h.1, ih h.2]

theorem cut_append {sep : Char} {before : Text} (h : sep ∉ before) (after : Text) :
    cut sep (before ++ sep :: after) = some (before, after) := by
  induction before with
  | nil => simp [cut]
  | cons c before ih =>
    simp only [List.mem_cons, not_or] at h
    simp [cut, Ne.symm h.1, ih h.2]

end Text

namespace Url

def isQueryChar (c : Char) : Bool :=
  c.toNat < 0x80 && isQueryByte (Utf8.asciiByte c)

theorem isQueryChar_ascii {c : Char} (h : isQueryChar c = true) :
    0x20 < c.toNat ∧ c.toNat < 0x80 := by
  simp only [isQueryChar, isQueryByte, Bool.and_eq_true, decide_eq_true_eq] at h
  obtain ⟨hascii, ⟨⟨⟨⟨⟨⟨hspace, _⟩, _⟩, _⟩, _⟩, _⟩, _⟩⟩ := h
  have hspace : 0x20 < (Utf8.asciiByte c).toNat := hspace
  rw [Utf8.toNat_asciiByte hascii] at hspace
  exact ⟨hspace, hascii⟩

theorem encodeQuery_eq_self {q : Text} (h : ∀ c ∈ q, isQueryChar c = true) : encodeQuery q = q := by
  rw [encodeQuery, Utf8.encode_ascii fun c hc => (isQueryChar_ascii (h c hc)).2]
  induction q with
  | nil => rfl
  | cons c q ih =>
    obtain ⟨hc, hq⟩ := List.forall_mem_cons.mp h
    have hbyte : isQueryByte (Utf8.asciiByte c) = true := (Bool.and_eq_true_iff.mp hc).2
    have hchar : Char.ofNat (Utf8.asciiByte c).toNat = c := by
      rw [Utf8.toNat_asciiByte (isQueryChar_ascii hc).2, Char.ofNat_toNat]
    rw [List.map_cons, List.flatMap_cons, if_pos hbyte, hchar, ih hq]
    rfl

/-- A text that begins and ends with a visible character and has no tab and no line break in it is
clean. -/
theorem clean_of_edges {t : Text} (hfirst : ∀ c ∈ t.head?, ' ' < c)
    (hlast : ∀ c ∈ t.getLast?, ' ' < c) (hbreaks : '\t' ∉ t ∧ '\n' ∉ t ∧ '\r' ∉ t) :
    clean t = t := by
  have hdrop : ∀ u : Text, (∀ c ∈ u.head?, ' ' < c) →
      u.dropWhile (fun c => decide (c ≤ ' ')) = u := by
    intro u hu
    cases u with
    | nil => rfl
    | cons c u =>
      have hc : ¬ c ≤ ' ' := Char.not_le.mpr (hu c rfl)
      simp [hc]
  have hreverse : ∀ c ∈ t.reverse.head?, ' ' < c := by
    rw [List.head?_reverse]
    exact hlast
  rw [clean, Text.trimBy, hdrop t hfirst, hdrop _ hreverse, List.reverse_reverse]
  apply List.filter_eq_self.mpr
  intro c hc
  simp only [Bool.and_eq_true, bne_iff_ne]
  refine ⟨⟨?_, ?_⟩, ?_⟩
  · rintro rfl
    exact hbreaks.1 hc
  · rintro rfl
    exact hbreaks.2.1 hc
  · rintro rfl
    exact hbreaks.2.2 hc

/-- A text without white space and control characters is clean. -/
theorem clean_eq_self {t : Text} (h : ∀ c ∈ t, 0x20 < c.toNat) : clean t = t := by
  have hne : ∀ d : Char, d.toNat ≤ 0x20 → d ∉ t := by
    intro d hd hm
    have := h d hm
    omega
  refine clean_of_edges (fun c hc => h c (List.mem_of_mem_head? hc))
    (fun c hc => h c (List.mem_of_mem_getLast? hc)) ?_
  exact ⟨hne '\t' (by decide), hne '\n' (by decide), hne '\r' (by decide)⟩

/-- The query of a clean URL on the base is what stands after its question mark, encoded. -/
theorem query_of_clean {q : Text} (hclean : clean ("/t?".toList ++ q) = "/t?".toList ++ q)
    (hfragment : '#' ∉ q) : query true ("/t?".toList ++ q) = .ok (encodeQuery q) := by
  have hcut : '#' ∉ "/t?".toList ++ q := by
    intro hm
    rcases List.mem_append.mp hm with hm | hm
    · exact absurd hm (by decide)
    · exact hfragment hm
  have hparts : Parts.ofText ("/t?".toList ++ q) = ⟨"/t".toList, some q, false⟩ := by
    rw [Parts.ofText, Text.cut_eq_none hcut]
    rfl
  rw [query, hclean]
  simp only [hparts]
  rfl

/-- A query that needs no encoding is that of a URL on the base. -/
theorem query_eq_self {q : Text} (h : ∀ c ∈ q, isQueryChar c = true) :
    query true ("/t?".toList ++ q) = .ok q := by
  have hvisible : ∀ c ∈ "/t?".toList ++ q, 0x20 < c.toNat := by
    refine List.forall_mem_append.mpr ⟨?_, fun c hc => (isQueryChar_ascii (h c hc)).1⟩
    simp
  have hfragment : '#' ∉ q := fun hm => absurd (h _ hm) (by decide)
  rw [query_of_clean (clean_eq_self hvisible) hfragment, encodeQuery_eq_self h]

end Url

namespace Form

def isPlainByte (b : UInt8) : Bool :=
  (0x30 ≤ b && b ≤ 0x39) || (0x41 ≤ b && b ≤ 0x5A) || (0x61 ≤ b && b ≤ 0x7A) ||
    b == 0x2A || b == 0x2D || b == 0x2E || b == 0x5F

/-- A byte of a name or a value: a plus sign for a space, and a percent sign before the digits of a
byte that is not written as it is. -/
def encodeByte (b : UInt8) : Text :=
  if b = 0x20 then ['+']
  else if isPlainByte b then [Char.ofNat b.toNat]
  else ['%', Url.hexDigit (b.toNat / 16), Url.hexDigit (b.toNat % 16)]

def encode (t : Text) : Text :=
  (Utf8.encode t).flatMap encodeByte

def encodePair (pair : Text × Text) : Text :=
  encode pair.1 ++ '=' :: encode pair.2

def serialize (pairs : List (Text × Text)) : Text :=
  ['&'].intercalate (pairs.map encodePair)

def isCodeChar (c : Char) : Bool :=
  Url.isQueryChar c && c != '&' && c != '=' && c != '?'

/-- A plus sign stands for a space. -/
def spaced (c : Char) : Char :=
  if c = '+' then ' ' else c

/-- A byte that is written as it is comes back as it is. -/
theorem plainByte_readBack {b : UInt8} (h : isPlainByte b = true) :
    isCodeChar (Char.ofNat b.toNat) = true ∧
      Utf8.asciiByte (spaced (Char.ofNat b.toNat)) = b ∧ b ≠ 0x25 := by
  -- The bytes are few enough to look at all of them.
  have hall : (List.range 256).all fun n => !isPlainByte (UInt8.ofNat n) ||
      (isCodeChar (Char.ofNat n) && Utf8.asciiByte (spaced (Char.ofNat n)) == UInt8.ofNat n &&
        UInt8.ofNat n != 0x25) := by decide +kernel
  have hb := List.all_eq_true.mp hall b.toNat (List.mem_range.mpr b.toNat_lt)
  rw [UInt8.ofNat_toNat, h] at hb
  simpa [and_assoc] using hb

/-- A digit of a byte comes back as its value. -/
theorem hexDigit_readBack {n : Nat} (h : n < 16) : isCodeChar (Url.hexDigit n) = true ∧
    hexValue? (Utf8.asciiByte (spaced (Url.hexDigit n))) = some (UInt8.ofNat n) := by
  have hall : (List.range 16).all fun n => isCodeChar (Url.hexDigit n) &&
      hexValue? (Utf8.asciiByte (spaced (Url.hexDigit n))) == some (UInt8.ofNat n) := by
    decide +kernel
  have hn := List.all_eq_true.mp hall n (List.mem_range.mpr h)
  simpa using hn

theorem encodeByte_isCodeChar (b : UInt8) : ∀ c ∈ encodeByte b, isCodeChar c = true := by
  have hb := b.toNat_lt
  rw [encodeByte]
  split
  · simp only [List.mem_singleton, forall_eq]
    decide
  · split
    · rename_i h
      simpa using (plainByte_readBack h).1
    · simp only [List.forall_mem_cons, List.not_mem_nil, false_implies, implies_true, and_true]
      exact ⟨by decide, (hexDigit_readBack (by omega)).1, (hexDigit_readBack (by omega)).1⟩

theorem encode_isCodeChar (t : Text) : ∀ c ∈ encode t, isCodeChar c = true := by
  intro c hc
  obtain ⟨b, _, hcb⟩ := List.mem_flatMap.mp hc
  exact encodeByte_isCodeChar b c hcb

theorem percentDecode_cons {b : UInt8} (h : b ≠ 0x25) (rest : List UInt8) :
    percentDecode (b :: rest) = b :: percentDecode rest := by
  rw [percentDecode]
  rintro high low tail rfl
  exact fun _ => h rfl

/-- What a byte is written as is read as that byte. -/
theorem percentDecode_encodeByte (b : UInt8) (rest : List UInt8) :
    percentDecode ((encodeByte b).map (Utf8.asciiByte ∘ spaced) ++ rest) =
      b :: percentDecode rest := by
  rw [encodeByte]
  split
  · rename_i h
    subst h
    exact percentDecode_cons (by decide) rest
  · split
    · rename_i h
      obtain ⟨_, hb, hne⟩ := plainByte_readBack h
      rw [List.map_singleton, Function.comp_apply, hb]
      exact percentDecode_cons hne rest
    · have hb := b.toNat_lt
      have hhigh := (hexDigit_readBack (show b.toNat / 16 < 16 by omega)).2
      have hlow := (hexDigit_readBack (show b.toNat % 16 < 16 by omega)).2
      have hsum : UInt8.ofNat (b.toNat / 16) * 16 + UInt8.ofNat (b.toNat % 16) = b := by
        apply UInt8.toNat_inj.mp
        simp
        omega
      have hpercent : Utf8.asciiByte (spaced '%') = 0x25 := by decide
      simp only [List.map_cons, List.map_nil, Function.comp_apply, List.cons_append,
        List.nil_append, hpercent]
      rw [percentDecode, hhigh, hlow]
      simp only [hsum]

theorem percentDecode_encode (bytes : List UInt8) :
    percentDecode ((bytes.flatMap encodeByte).map (Utf8.asciiByte ∘ spaced)) = bytes := by
  induction bytes with
  | nil => rfl
  | cons b bytes ih =>
    rw [List.flatMap_cons, List.map_append, percentDecode_encodeByte, ih]

theorem isQueryChar_of_isCodeChar {c : Char} (h : isCodeChar c = true) :
    Url.isQueryChar c = true := by
  simp only [isCodeChar, Bool.and_eq_true] at h
  exact h.1.1.1

theorem spaced_ascii {t : Text} (h : ∀ c ∈ t, Url.isQueryChar c = true) :
    ∀ c ∈ t.map spaced, c.toNat < 0x80 := by
  intro c hc
  obtain ⟨d, hd, rfl⟩ := List.mem_map.mp hc
  rw [spaced]
  split
  · decide
  · exact (Url.isQueryChar_ascii (h d hd)).2

/-- A name or a value is read back from what it is written as. -/
theorem decode_encode (t : Text) : decode (encode t) = t := by
  have hascii : ∀ c ∈ (encode t).map spaced, c.toNat < 0x80 :=
    spaced_ascii fun c hc => isQueryChar_of_isCodeChar (encode_isCodeChar t c hc)
  change Utf8.decodeLossy (percentDecode (Utf8.encode ((encode t).map spaced))) = t
  rw [Utf8.encode_ascii hascii, List.map_map, encode, percentDecode_encode,
    Utf8.decodeLossy_encode]

theorem encodePair_isQueryChar (pair : Text × Text) :
    ∀ c ∈ encodePair pair, Url.isQueryChar c = true ∧ c ≠ '&' ∧ c ≠ '?' := by
  have hcode : ∀ t : Text, ∀ c ∈ encode t, Url.isQueryChar c = true ∧ c ≠ '&' ∧ c ≠ '?' := by
    intro t c hc
    have h := encode_isCodeChar t c hc
    simp only [isCodeChar, Bool.and_eq_true, bne_iff_ne] at h
    exact ⟨h.1.1.1, h.1.1.2, h.2⟩
  refine List.forall_mem_append.mpr ⟨hcode pair.1, List.forall_mem_cons.mpr ⟨?_, hcode pair.2⟩⟩
  decide

theorem serialize_isQueryChar (pairs : List (Text × Text)) :
    ∀ c ∈ serialize pairs, Url.isQueryChar c = true ∧ c ≠ '?' := by
  intro c hc
  rcases Text.mem_intercalate hc with hs | ⟨piece, hp, hc⟩
  · rw [List.mem_singleton.mp hs]
    decide
  · obtain ⟨pair, _, rfl⟩ := List.mem_map.mp hp
    have h := encodePair_isQueryChar pair c hc
    exact ⟨h.1, h.2.2⟩

theorem decodePair_encodePair (pair : Text × Text) : decodePair (encodePair pair) = pair := by
  have hname : '=' ∉ encode pair.1 := by
    intro h
    exact absurd (encode_isCodeChar _ _ h) (by decide)
  rw [decodePair, encodePair, Text.cut_append hname]
  simp only [decode_encode]

/-- The pairs of a form are read back from its query. -/
theorem parse_serialize (pairs : List (Text × Text)) : parse (serialize pairs) = pairs := by
  cases pairs with
  | nil => rfl
  | cons pair rest =>
    have hsplit : Text.splitOn '&' (serialize (pair :: rest)) = (pair :: rest).map encodePair := by
      rw [Text.splitOn, Text.splitBy_eq_splitOnP]
      refine List.splitOn_intercalate '&' (fun piece hp hm => ?_) (by simp)
      obtain ⟨other, _, rfl⟩ := List.mem_map.mp hp
      exact (encodePair_isQueryChar other _ hm).2.1 rfl
    have hfilter : ((pair :: rest).map encodePair).filter (fun piece => !piece.isEmpty) =
        (pair :: rest).map encodePair := by
      refine List.filter_eq_self.mpr fun piece hp => ?_
      obtain ⟨other, _, rfl⟩ := List.mem_map.mp hp
      simp [encodePair]
    rw [parse, hsplit, hfilter, List.map_map]
    exact List.map_id'' decodePair_encodePair _

example : serialize [("a b".toList, "é&".toList), ("x".toList, [])] =
    "a+b=%C3%A9%26&x=".toList := by decide +kernel

end Form

end RequestSql
