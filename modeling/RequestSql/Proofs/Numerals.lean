import RequestSql.Json.Number
import RequestSql.Proofs.Names
import RequestSql.Proofs.Rounding

namespace RequestSql

namespace Text

theorem digitsValue_eq (t : Text) : digitsValue t = Nat.ofDigitChars 10 t 0 :=
  Nat.ofDigitChars_eq_foldl.symm

theorem digitsValue_ofNat (n : Nat) : digitsValue (ofNat n) = n := by
  rw [digitsValue_eq]
  exact Nat.ofDigitChars_ten_toDigits

theorem digitsValue_append (u v : Text) :
    digitsValue (u ++ v) = digitsValue u * 10 ^ v.length + digitsValue v := by
  simp only [digitsValue_eq, Nat.ofDigitChars_append]
  rw [Nat.ofDigitChars_eq_ofDigitChars_zero, Nat.mul_comm]

theorem digitsValue_zeros (n : Nat) : digitsValue (List.replicate n '0') = 0 := by
  rw [digitsValue_eq, Nat.ofDigitChars_replicate_zero, Nat.mul_zero]

theorem isDigit_of_mem_ofNat {n : Nat} {c : Char} (h : c ∈ ofNat n) : c.isDigit = true :=
  Nat.isDigit_of_mem_toDigits (by omega) (by omega) h

theorem isDigit_of_mem_zeros {n : Nat} {c : Char} (h : c ∈ List.replicate n '0') :
    c.isDigit = true := by
  rw [List.eq_of_mem_replicate h]
  decide

def isNumeralChar (c : Char) : Bool :=
  c.isDigit || c == '.' || c == 'e' || c == '-' || c == '+'

theorem isNumeralChar_of_isDigit {c : Char} (h : c.isDigit = true) : isNumeralChar c = true := by
  simp [isNumeralChar, h]

end Text

namespace Decimal

open Text

variable {u v : Text} (whole places : Text)

theorem spanDigits_append (hu : ∀ c ∈ u, c.isDigit = true)
    (hv : v.head?.any Char.isDigit = false) : spanDigits (u ++ v) = (u, v) := by
  have hstop : v.takeWhile Char.isDigit = [] ∧ v.dropWhile Char.isDigit = v := by
    cases v with
    | nil => exact ⟨rfl, rfl⟩
    | cons c v =>
      have hc : c.isDigit = false := hv
      simp [hc]
  rw [spanDigits, List.takeWhile_append_of_pos hu, List.dropWhile_append_of_pos hu, hstop.1,
    hstop.2, List.append_nil]

theorem spanDigits_eq (hu : ∀ c ∈ u, c.isDigit = true) : spanDigits u = (u, []) := by
  have h := spanDigits_append (v := []) hu rfl
  rwa [List.append_nil] at h

/-- A number with a point. -/
theorem read_point (hne : whole ≠ []) (hwhole : ∀ c ∈ whole, c.isDigit = true)
    (hplaces : ∀ c ∈ places, c.isDigit = true) :
    read? (whole ++ '.' :: places) =
      some ⟨digitsValue (whole ++ places), -(places.length : Int)⟩ := by
  have hspan : spanDigits (whole ++ '.' :: places) = (whole, '.' :: places) :=
    spanDigits_append hwhole rfl
  simp [read?, hspan, spanDigits_eq hplaces, hne]

/-- A number with an exponent. -/
theorem read_power (hne : whole ≠ []) (hwhole : ∀ c ∈ whole, c.isDigit = true) (r : Text) :
    read? (whole ++ 'e' :: r) = (readExponent? r).map fun n => ⟨digitsValue whole, n⟩ := by
  have hspan : spanDigits (whole ++ 'e' :: r) = (whole, 'e' :: r) := spanDigits_append hwhole rfl
  simp [read?, hspan, hne]

/-- A number with a point and an exponent. -/
theorem read_point_power (hne : whole ≠ []) (hwhole : ∀ c ∈ whole, c.isDigit = true)
    (hplaces : ∀ c ∈ places, c.isDigit = true) (r : Text) :
    read? (whole ++ '.' :: (places ++ 'e' :: r)) = (readExponent? r).map fun n =>
      ⟨digitsValue (whole ++ places), n - places.length⟩ := by
  have hspan : spanDigits (whole ++ '.' :: (places ++ 'e' :: r)) =
      (whole, '.' :: (places ++ 'e' :: r)) := spanDigits_append hwhole rfl
  have hspan' : spanDigits (places ++ 'e' :: r) = (places, 'e' :: r) :=
    spanDigits_append hplaces rfl
  simp [read?, hspan, hspan', hne]

theorem head_of_read {t : Text} {d : Decimal} (h : read? t = some d) :
    ∃ c u, t = c :: u ∧ (c.isDigit = true ∨ c = '.') := by
  cases t with
  | nil => cases h
  | cons c u =>
    refine ⟨c, u, rfl, ?_⟩
    by_contra hc
    obtain ⟨hdigit, hpoint⟩ := not_or.mp hc
    have hspan : spanDigits (c :: u) = ([], c :: u) := by simp [spanDigits, hdigit]
    simp [read?, hspan, hpoint] at h

theorem le_ofDigitChars (t : Text) (n : Nat) : n ≤ Nat.ofDigitChars 10 t n := by
  rw [Nat.ofDigitChars_eq_ofDigitChars_zero]
  exact Nat.le_add_right_of_le (Nat.le_mul_of_pos_left n (Nat.pow_pos (by omega)))

/-- No digit of a small exponent is passed over. -/
theorem exponentValue_eq (h : digitsValue u < 0x10000) : exponentValue u = digitsValue u := by
  have hfold : ∀ (t : Text) (n : Nat), Nat.ofDigitChars 10 t n < 0x10000 →
      t.foldl (fun n c => if n < 0x10000 then 10 * n + (c.toNat - '0'.toNat) else n) n =
        Nat.ofDigitChars 10 t n := by
    intro t
    induction t with
    | nil => exact fun _ _ => rfl
    | cons c t ih =>
      intro n hn
      rw [Nat.ofDigitChars_cons] at hn ⊢
      have hle := le_ofDigitChars t (10 * n + (c.toNat - '0'.toNat))
      rw [List.foldl_cons, if_pos (by omega)]
      exact ih _ hn
  rw [digitsValue_eq] at h ⊢
  exact hfold u 0 h

theorem readExponent_sign {n : Nat} (h : n < 0x10000) :
    readExponent? ('-' :: ofNat n) = some (-(n : Int)) ∧
      readExponent? ('+' :: ofNat n) = some (n : Int) := by
  have hvalue : exponentValue (ofNat n) = n := by
    rw [exponentValue_eq (by rwa [digitsValue_ofNat]), digitsValue_ofNat]
  have hdigits : (ofNat n).all Char.isDigit = true :=
    List.all_eq_true.mpr fun c hc => isDigit_of_mem_ofNat hc
  have hne : (ofNat n).isEmpty = false := List.isEmpty_eq_false_iff.mpr Nat.toDigits_ne_nil
  constructor
  all_goals
    simp only [readExponent?, hne, hdigits, hvalue]
    rfl

/-- A number with its exponent written out reads back. -/
theorem readExponent_eq {power : Int} (h : power.natAbs < 0x10000) :
    readExponent? ((if power < 0 then '-' else '+') :: ofNat power.natAbs) = some power := by
  obtain ⟨hminus, hplus⟩ := readExponent_sign h
  split
  · rw [hminus]
    congr 1
    omega
  · rw [hplus]
    congr 1
    omega

variable {d : Decimal}

theorem toRat_shift (n k : Nat) (e : Int) : toRat ⟨n * 10 ^ k, e⟩ = toRat ⟨n, e + k⟩ := by
  simp only [toRat]
  push_cast
  rw [zpow_add₀ (by norm_num), zpow_natCast]
  ring

/-- The positional form of a whole number reads back, with a zero after the point. -/
theorem read_positional_whole (h : 0 ≤ d.exponent) :
    ∃ d', read? (d.positional ++ ".0".toList) = some d' ∧ d'.toRat = d.toRat := by
  obtain ⟨k, hk⟩ : ∃ k : Nat, d.exponent = k := ⟨d.exponent.toNat, by omega⟩
  have htext : d.positional = ofNat d.digits ++ List.replicate k '0' := by
    simp [positional, hk]
  have hdigits : ∀ c ∈ ofNat d.digits ++ List.replicate k '0', c.isDigit = true := by
    intro c hc
    rcases List.mem_append.mp hc with hc | hc
    · exact isDigit_of_mem_ofNat hc
    · exact isDigit_of_mem_zeros hc
  have hvalue : digitsValue (ofNat d.digits ++ List.replicate k '0' ++ ['0']) =
      d.digits * 10 ^ (k + 1) := by
    rw [digitsValue_append, digitsValue_append, digitsValue_ofNat, digitsValue_zeros,
      List.length_replicate, pow_succ, ← Nat.mul_assoc]
    rfl
  have hne : ofNat d.digits ++ List.replicate k '0' ≠ [] := by
    simp [ofNat, Nat.toDigits_ne_nil]
  have hread : read? (d.positional ++ ".0".toList) = some ⟨d.digits * 10 ^ (k + 1), -1⟩ := by
    rw [htext, ← hvalue]
    exact read_point _ ['0'] hne hdigits (by simp)
  refine ⟨_, hread, ?_⟩
  rw [toRat_shift, toRat, toRat, hk]
  congr 2
  push_cast
  omega

/-- The positional form of a number with places after the point reads back. -/
theorem read_positional_point (h : d.exponent < 0) : read? d.positional = some d := by
  obtain ⟨k, hk⟩ : ∃ k : Nat, d.exponent = -k := ⟨(-d.exponent).toNat, by omega⟩
  have hdigits : ∀ c ∈ ofNat d.digits, c.isDigit = true := fun c hc => isDigit_of_mem_ofNat hc
  unfold positional
  rw [if_neg (by omega)]
  simp only [hk, neg_neg, Int.toNat_natCast]
  split
  · rename_i hlt
    have hne : (ofNat d.digits).take ((ofNat d.digits).length - k) ≠ [] := by
      rw [Ne, List.take_eq_nil_iff]
      rintro (hz | hz)
      · omega
      · exact Nat.toDigits_ne_nil hz
    rw [read_point _ _ hne (fun c hc => hdigits c (List.mem_of_mem_take hc))
      (fun c hc => hdigits c (List.mem_of_mem_drop hc)), List.take_append_drop, digitsValue_ofNat,
      List.length_drop, Nat.sub_sub_self hlt.le, ← hk]
  · rename_i hle
    have hplaces : ∀ c ∈ List.replicate (k - (ofNat d.digits).length) '0' ++ ofNat d.digits,
        c.isDigit = true := by
      intro c hc
      rcases List.mem_append.mp hc with hc | hc
      · exact isDigit_of_mem_zeros hc
      · exact hdigits c hc
    have hlength : (List.replicate (k - (ofNat d.digits).length) '0' ++ ofNat d.digits).length =
        k := by
      simp
      omega
    have hvalue : digitsValue (['0'] ++
        (List.replicate (k - (ofNat d.digits).length) '0' ++ ofNat d.digits)) = d.digits := by
      rw [digitsValue_append, digitsValue_append, digitsValue_zeros, digitsValue_ofNat]
      simp [digitsValue]
    have hread := read_point ['0'] _ (by simp) (by simp) hplaces
    rw [hvalue, hlength, ← hk] at hread
    exact hread

/-- The form with an exponent reads back. -/
theorem read_scientific (h : (d.place - 1).natAbs < 0x10000) : read? d.scientific = some d := by
  have hdigits : ∀ c ∈ ofNat d.digits, c.isDigit = true := fun c hc => isDigit_of_mem_ofNat hc
  have hvalue := digitsValue_ofNat d.digits
  have hplace : d.place = (ofNat d.digits).length + d.exponent := rfl
  unfold scientific
  dsimp only
  cases htext : ofNat d.digits with
  | nil => exact absurd htext Nat.toDigits_ne_nil
  | cons c rest =>
    rw [htext] at hdigits hvalue hplace
    obtain ⟨hc, hrest⟩ := List.forall_mem_cons.mp hdigits
    cases rest with
    | nil =>
      have hread := read_power [c] (by simp) (by simpa using hc)
        ((if d.place - 1 < 0 then '-' else '+') :: ofNat (d.place - 1).natAbs)
      rw [readExponent_eq h] at hread
      refine hread.trans ?_
      simp [hplace, hvalue]
    | cons e rest =>
      have hread := read_point_power [c] _ (by simp) (by simpa using hc) hrest
        ((if d.place - 1 < 0 then '-' else '+') :: ofNat (d.place - 1).natAbs)
      have hexponent : d.place - 1 - ((e :: rest).length : Int) = d.exponent := by
        rw [hplace]
        simp only [List.length_cons]
        omega
      rw [readExponent_eq h] at hread
      refine hread.trans ?_
      simp only [Option.map_some, hexponent, List.singleton_append, hvalue]

def numeral (d : Decimal) : Text :=
  if d.digits = 0 then "0.0".toList
  else if Json.Number.isPositional d then
    if 0 ≤ d.exponent then d.positional ++ ".0".toList else d.positional
  else d.scientific

theorem read_numeral (h : d.digits ≠ 0 → (d.place - 1).natAbs < 0x10000) :
    ∃ d', read? d.numeral = some d' ∧ d'.toRat = d.toRat := by
  unfold numeral
  split
  · rename_i hd
    refine ⟨⟨0, -1⟩, by decide, ?_⟩
    simp [toRat, hd]
  rename_i hd
  split
  · split
    · rename_i he
      exact read_positional_whole he
    · rename_i he
      exact ⟨d, read_positional_point (by omega), rfl⟩
  · exact ⟨d, read_scientific (h hd), rfl⟩

theorem mem_positional {c : Char} (h : c ∈ d.positional) : c.isDigit = true ∨ c = '.' := by
  unfold positional at h
  dsimp only at h
  split at h
  · rcases List.mem_append.mp h with h | h
    · exact .inl (isDigit_of_mem_ofNat h)
    · exact .inl (isDigit_of_mem_zeros h)
  split at h
  · rcases List.mem_append.mp h with h | h
    · exact .inl (isDigit_of_mem_ofNat (List.mem_of_mem_take h))
    · rcases List.mem_cons.mp h with h | h
      · exact .inr h
      · exact .inl (isDigit_of_mem_ofNat (List.mem_of_mem_drop h))
  · rcases List.mem_cons.mp h with rfl | h
    · exact .inl (by decide)
    rcases List.mem_cons.mp h with h | h
    · exact .inr h
    rcases List.mem_append.mp h with h | h
    · exact .inl (isDigit_of_mem_zeros h)
    · exact .inl (isDigit_of_mem_ofNat h)

theorem point_mem_positional (h : d.exponent < 0) : '.' ∈ d.positional := by
  unfold positional
  rw [if_neg (by omega)]
  dsimp only
  split <;> simp

theorem mem_scientific {c : Char} (h : c ∈ d.scientific) : isNumeralChar c = true := by
  have hdigits : ∀ c ∈ ofNat d.digits, isNumeralChar c = true :=
    fun c hc => isNumeralChar_of_isDigit (isDigit_of_mem_ofNat hc)
  unfold scientific at h
  dsimp only at h
  rcases List.mem_append.mp h with h | h
  · cases htext : ofNat d.digits with
    | nil => exact absurd htext Nat.toDigits_ne_nil
    | cons e rest =>
      rw [htext] at h hdigits
      cases rest with
      | nil => exact hdigits c h
      | cons e' rest =>
        rcases List.mem_cons.mp h with rfl | h
        · exact hdigits _ List.mem_cons_self
        rcases List.mem_cons.mp h with rfl | h
        · decide
        · exact hdigits c (List.mem_cons_of_mem _ h)
  · rcases List.mem_cons.mp h with rfl | h
    · decide
    rcases List.mem_cons.mp h with rfl | h
    · split <;> decide
    · exact isNumeralChar_of_isDigit (isDigit_of_mem_ofNat h)

theorem mem_numeral {c : Char} (h : c ∈ d.numeral) : isNumeralChar c = true := by
  have hpositional : ∀ c ∈ d.positional, isNumeralChar c = true := by
    intro c hc
    rcases mem_positional hc with hc | rfl
    · exact isNumeralChar_of_isDigit hc
    · decide
  unfold numeral at h
  split at h
  · exact List.all_eq_true.mp (by decide : "0.0".toList.all isNumeralChar = true) c h
  split at h
  · split at h
    · rcases List.mem_append.mp h with h | h
      · exact hpositional c h
      · exact List.all_eq_true.mp (by decide : ".0".toList.all isNumeralChar = true) c h
    · exact hpositional c h
  · exact mem_scientific h

/-- A numeral has a point or an exponent, which an integer has not. -/
theorem numeral_marked (d : Decimal) : '.' ∈ d.numeral ∨ 'e' ∈ d.numeral := by
  unfold numeral
  split
  · exact .inl (by decide)
  split
  · split
    · exact .inl (List.mem_append_right _ (by decide))
    · rename_i he
      exact .inl (point_mem_positional (by omega))
  · exact .inr (List.mem_append_right _ List.mem_cons_self)

end Decimal

namespace Binary64

open Text

variable {x : Binary64}

theorem toLower_of_not_isAlpha {c : Char} (h : c.isAlpha = false) : c.toLower = c := by
  unfold Char.toLower
  split
  · rename_i hc
    have halpha : c.isAlpha = true := Bool.or_eq_true_iff.mpr (.inl (decide_eq_true hc))
    rw [h] at halpha
    cases halpha
  · rfl

/-- A decimal is read as such after its sign, since it begins neither with another sign nor with a
letter. -/
theorem read_decimal {t : Text} {d : Decimal} (h : Decimal.read? t = some d) (negative : Bool) :
    read? ((if negative then ['-'] else []) ++ t) = some (d.toBinary64 negative) := by
  obtain ⟨c, t, rfl, hc⟩ := Decimal.head_of_read h
  obtain ⟨halpha, hminus, hplus⟩ : c.isAlpha = false ∧ c ≠ '-' ∧ c ≠ '+' := by
    rcases hc with hc | rfl
    · refine ⟨?_, ?_, ?_⟩
      · have hn := isDigit_iff.mp hc
        rw [← Bool.not_eq_true, isAlpha_iff]
        omega
      all_goals
        rintro rfl
        exact absurd hc (by decide)
    · decide
  have hword : ∀ word : Text, word.head?.any Char.isAlpha = true → asciiLower (c :: t) ≠ word := by
    rintro word hw rfl
    have hlower : c.toLower.isAlpha = true := hw
    rw [toLower_of_not_isAlpha halpha, halpha] at hlower
    cases hlower
  have hinf := hword "inf".toList rfl
  have hinfinity := hword "infinity".toList rfl
  have hnan := hword "nan".toList rfl
  cases negative with
  | true =>
    simp only [read?, if_true, List.cons_append, List.nil_append, hinf, hinfinity, hnan, or_false,
      if_false, h, Option.map_some]
  | false =>
    change read? (c :: t) = _
    unfold read?
    split
    rename_i sign magnitude hsign
    split at hsign
    · rename_i heq
      exact absurd (List.cons.inj heq).1 hminus
    · rename_i heq
      exact absurd (List.cons.inj heq).1 hplus
    · cases hsign
      simp only [hinf, hinfinity, hnan, or_false, if_false, h, Option.map_some]

/-- The shortest decimal of a number other than zero is in range. -/
theorem shortest_place {tie : TieRule} (h : x.isFinite = true)
    (hd : (x.shortest tie).digits ≠ 0) :
    -400 ≤ (x.shortest tie).place ∧ (x.shortest tie).place ≤ 400 := by
  have hback := shortest_toBinary64 tie h
  unfold Decimal.toBinary64 at hback
  rw [if_neg hd] at hback
  split at hback
  · rw [← hback] at h
    exact absurd h (by cases x.negative <;> decide)
  split at hback
  · have hzero : x.significand = 0 := by rw [← hback]; rfl
    refine absurd ?_ hd
    unfold shortest
    rw [if_pos hzero]
  · omega

theorem floatText_eq (x : Binary64) : Json.Number.floatText x =
    (if x.negative then ['-'] else []) ++ (x.shortest .toEven).numeral := by
  unfold Json.Number.floatText Decimal.numeral
  dsimp only
  split
  · rfl
  split
  · rw [List.append_assoc]
    congr 1
    split
    · rfl
    · exact List.append_nil _
  · rfl

/-- The text of a finite number reads back as that number. -/
theorem read_floatText (h : x.isFinite = true) : read? (Json.Number.floatText x) = some x := by
  have hrange : (x.shortest .toEven).digits ≠ 0 →
      ((x.shortest .toEven).place - 1).natAbs < 0x10000 := by
    intro hd
    have hplace := shortest_place h hd
    omega
  obtain ⟨d, hread, hvalue⟩ := Decimal.read_numeral hrange
  rw [floatText_eq, read_decimal hread, Decimal.toBinary64_congr hvalue,
    shortest_toBinary64 .toEven h]

end Binary64

end RequestSql
