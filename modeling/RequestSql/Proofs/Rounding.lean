import Mathlib.Algebra.Order.Field.Power
import Mathlib.Algebra.Order.Field.Rat
import Mathlib.Tactic.FieldSimp
import Mathlib.Tactic.Linarith
import Mathlib.Tactic.Positivity
import Mathlib.Tactic.Ring
import RequestSql.Number.Shortest

namespace RequestSql

theorem zpow_eq_div (b : ℚ) (s : Int) : b ^ s = b ^ s.toNat / b ^ (-s).toNat := by
  rcases Int.le_total 0 s with h | h
  · lift s to Nat using h
    simp
  · obtain ⟨n, rfl⟩ := Int.exists_eq_neg_ofNat h
    simp

namespace Binary64

variable {num den : Nat} {q : ℚ} {s : Int}

/-- The scale of a number: the least one, from the smallest scale on, that gives a significand of at
most 53 bits. -/
structure FitsScale (q : ℚ) (s : Int) : Prop where
  smallest : -1074 ≤ s
  below : q < 2 ^ 53 * 2 ^ s
  above : s = -1074 ∨ 2 ^ 52 * 2 ^ s ≤ q

theorem FitsScale.le {s' : Int} (h : FitsScale q s) (h' : FitsScale q s') : s' ≤ s := by
  by_contra hlt
  have hne : s' ≠ -1074 := fun he => hlt (he ▸ h.smallest)
  have habove : (2 : ℚ) ^ 52 * 2 ^ s' ≤ q := h'.above.resolve_left hne
  have hpow : (2 : ℚ) ^ (s + 1) ≤ 2 ^ s' := zpow_le_zpow_right₀ (by norm_num) (by omega)
  have hstep : (2 : ℚ) ^ (s + 1) = 2 ^ s * 2 := zpow_add_one₀ (by norm_num) s
  have hbelow := h.below
  linarith

theorem FitsScale.unique {s' : Int} (h : FitsScale q s) (h' : FitsScale q s') : s = s' :=
  le_antisymm (h'.le h) (h.le h')

theorem rescale_fst (num den : Nat) (s : Int) :
    (rescale num den s).1 = num * 2 ^ (-s).toNat :=
  rfl

theorem rescale_snd (num den : Nat) (s : Int) : (rescale num den s).2 = den * 2 ^ s.toNat :=
  rfl

theorem rescale_pos (num : Nat) (hden : 0 < den) (s : Int) : 0 < (rescale num den s).2 := by
  rw [rescale_snd]
  positivity

theorem rescale_div (hden : 0 < den) (s : Int) :
    ((rescale num den s).1 : ℚ) / (rescale num den s).2 = num / den / 2 ^ s := by
  rw [rescale_fst, rescale_snd, zpow_eq_div 2 s]
  push_cast
  field_simp

/-- A natural number lies from one power of two up to the next. -/
theorem log2_bounds {n : Nat} (hn : 0 < n) :
    (2 : ℚ) ^ (n.log2 : Int) ≤ n ∧ (n : ℚ) < 2 ^ ((n.log2 : Int) + 1) := by
  have hle : 2 ^ n.log2 ≤ n := Nat.log2_self_le (by omega)
  have hlt : n < 2 ^ (n.log2 + 1) := Nat.lt_log2_self
  constructor
  · rw [zpow_natCast]
    exact_mod_cast hle
  · rw [← Nat.cast_succ, zpow_natCast]
    exact_mod_cast hlt

theorem div_bounds (hnum : 0 < num) (hden : 0 < den) :
    (2 : ℚ) ^ ((num.log2 : Int) - den.log2 - 1) ≤ num / den ∧
      (num / den : ℚ) < 2 ^ ((num.log2 : Int) - den.log2 + 1) := by
  obtain ⟨hn, hn'⟩ := log2_bounds hnum
  obtain ⟨hd, hd'⟩ := log2_bounds hden
  have hpos : (0 : ℚ) < den := by exact_mod_cast hden
  constructor
  · rw [le_div_iff₀ hpos]
    calc (2 : ℚ) ^ ((num.log2 : Int) - den.log2 - 1) * den
        ≤ 2 ^ ((num.log2 : Int) - den.log2 - 1) * 2 ^ ((den.log2 : Int) + 1) := by gcongr
      _ = 2 ^ (num.log2 : Int) := by rw [← zpow_add₀ two_ne_zero]; congr 1; omega
      _ ≤ num := hn
  · rw [div_lt_iff₀ hpos]
    calc (num : ℚ) < 2 ^ ((num.log2 : Int) + 1) := hn'
      _ = 2 ^ ((num.log2 : Int) - den.log2 + 1) * 2 ^ (den.log2 : Int) := by
        rw [← zpow_add₀ two_ne_zero]; congr 1; omega
      _ ≤ 2 ^ ((num.log2 : Int) - den.log2 + 1) * den := by gcongr

/-- The integer part of the rescaled ratio says whether its significand is too large. -/
theorem two_pow_le_rescale (num : Nat) (hden : 0 < den) (s : Int) (n : Nat) :
    n ≤ (rescale num den s).1 / (rescale num den s).2 ↔ (n : ℚ) * 2 ^ s ≤ num / den := by
  have hpos := rescale_pos num hden s
  have hpos' : (0 : ℚ) < (rescale num den s).2 := by exact_mod_cast hpos
  rw [Nat.le_div_iff_mul_le hpos, ← le_div_iff₀ (by positivity : (0 : ℚ) < 2 ^ s),
    ← rescale_div hden, le_div_iff₀ hpos']
  exact_mod_cast Iff.rfl

theorem scaleFor_fits (hnum : 0 < num) (hden : 0 < den) :
    FitsScale (num / den) (scaleFor num den) := by
  obtain ⟨hlow, hhigh⟩ := div_bounds hnum hden
  unfold scaleFor
  generalize (num.log2 : Int) - den.log2 = l at hlow hhigh
  dsimp only
  have hcap : (2 : ℚ) ^ (l + 1) ≤ 2 ^ 54 * 2 ^ (max (l - 53) (-1074)) := by
    rw [← zpow_natCast, ← zpow_add₀ two_ne_zero]
    exact zpow_le_zpow_right₀ (by norm_num) (by omega)
  have hstep := zpow_add_one₀ (two_ne_zero (α := ℚ)) (max (l - 53) (-1074))
  have htest := two_pow_le_rescale num hden (max (l - 53) (-1074)) 0x20000000000000
  split
  · rename_i h
    rw [htest] at h
    push_cast at h
    refine ⟨by omega, ?_, .inr ?_⟩
    · rw [hstep]
      linarith
    · rw [hstep]
      linarith
  · rename_i h
    rw [htest] at h
    push_cast at h
    refine ⟨by omega, by linarith, ?_⟩
    rcases le_or_gt (l - 53) (-1074) with hl | hl
    · exact .inl (by omega)
    · right
      rw [max_eq_left hl.le, ← zpow_natCast, ← zpow_add₀ two_ne_zero]
      refine le_trans (le_of_eq ?_) hlow
      congr 1
      push_cast
      omega

/-- Rounding at the scale that fits. -/
theorem ofRatio_eq (hnum : 0 < num) (hden : 0 < den) (hs : FitsScale (num / den) s)
    (negative : Bool) : ofRatio negative num den =
      if roundDiv (rescale num den s).1 (rescale num den s).2 = 0x20000000000000 then
        pack negative 0x10000000000000 (s + 1)
      else pack negative (roundDiv (rescale num den s).1 (rescale num den s).2) s := by
  rw [hs.unique (scaleFor_fits hnum hden)]
  unfold ofRatio
  rw [if_neg hnum.ne']

theorem roundDiv_mul_left {k : Nat} (hk : 0 < k) (a b : Nat) :
    roundDiv (k * a) (k * b) = roundDiv a b := by
  have hlt : k * b < 2 * (k * (a % b)) ↔ b < 2 * (a % b) := by
    rw [Nat.mul_left_comm, Nat.mul_lt_mul_left hk]
  have heq : 2 * (k * (a % b)) = k * b ↔ 2 * (a % b) = b := by
    rw [Nat.mul_left_comm, Nat.mul_right_inj hk.ne']
  simp only [roundDiv, Nat.mul_div_mul_left _ _ hk, Nat.mul_mod_mul_left, hlt, heq]

theorem roundDiv_mul_self {b : Nat} (hb : 0 < b) (n : Nat) : roundDiv (n * b) b = n := by
  simp only [roundDiv, Nat.mul_div_cancel _ hb, Nat.mul_mod_left]
  exact if_neg (by omega)

theorem rescale_mul_left (k num den : Nat) (s : Int) :
    rescale (k * num) (k * den) s = (k * (rescale num den s).1, k * (rescale num den s).2) := by
  simp only [rescale, Nat.mul_assoc]

/-- A common factor of numerator and denominator does not change what they are rounded to. -/
theorem ofRatio_mul_left {k : Nat} (hk : 0 < k) (hden : 0 < den) (negative : Bool) :
    ofRatio negative (k * num) (k * den) = ofRatio negative num den := by
  rcases Nat.eq_zero_or_pos num with rfl | hnum
  · rfl
  have hratio : ((k * num : Nat) : ℚ) / (k * den : Nat) = num / den := by
    have : (k : ℚ) ≠ 0 := by exact_mod_cast hk.ne'
    push_cast
    exact mul_div_mul_left _ _ this
  have hfits := scaleFor_fits hnum hden
  rw [ofRatio_eq (Nat.mul_pos hk hnum) (Nat.mul_pos hk hden) (by rw [hratio]; exact hfits),
    ofRatio_eq hnum hden hfits, rescale_mul_left, roundDiv_mul_left hk]

/-- Rounding depends on the value of a ratio alone. -/
theorem ofRatio_congr {num' den' : Nat} (hden : 0 < den) (hden' : 0 < den')
    (h : (num / den : ℚ) = num' / den') (negative : Bool) :
    ofRatio negative num den = ofRatio negative num' den' := by
  have hcross : den' * num = den * num' := by
    rw [div_eq_div_iff (by positivity) (by positivity)] at h
    have : num * den' = num' * den := by exact_mod_cast h
    linarith
  rw [← ofRatio_mul_left hden' hden, hcross, Nat.mul_comm den', ofRatio_mul_left hden hden']

variable {x : Binary64}

def toRat (x : Binary64) : ℚ :=
  x.significand * 2 ^ x.scale

theorem toRatio_fst (x : Binary64) : x.toRatio.1 = x.significand * 2 ^ x.scale.toNat :=
  rfl

theorem toRatio_snd (x : Binary64) : x.toRatio.2 = 2 ^ (-x.scale).toNat :=
  rfl

theorem toRatio_div (x : Binary64) : (x.toRatio.1 / x.toRatio.2 : ℚ) = x.toRat := by
  rw [toRatio_fst, toRatio_snd, toRat, zpow_eq_div 2 x.scale]
  push_cast
  exact mul_div_assoc _ _ _

theorem significand_lt (x : Binary64) : x.significand < 0x20000000000000 := by
  have h := x.fraction.isLt
  unfold significand
  split <;> omega

theorem le_significand (h : x.exponent.val ≠ 0) : 0x10000000000000 ≤ x.significand := by
  unfold significand
  rw [if_neg h]
  omega

theorem fits_scale (x : Binary64) : FitsScale x.toRat x.scale where
  smallest := by
    unfold scale
    omega
  below := by
    have h : (x.significand : ℚ) < 2 ^ 53 := by exact_mod_cast x.significand_lt
    unfold toRat
    gcongr
  above := by
    rcases Nat.eq_zero_or_pos x.exponent.val with h | h
    · left
      unfold scale
      omega
    · right
      have h : (2 : ℚ) ^ 52 ≤ x.significand := by exact_mod_cast le_significand h.ne'
      unfold toRat
      gcongr

theorem pack_significand (h : x.isFinite = true) : pack x.negative x.significand x.scale = x := by
  have hfinite : x.exponent.val ≠ 2047 := by simpa [isFinite] using h
  obtain ⟨negative, ⟨e, he⟩, ⟨f, hf⟩⟩ := x
  by_cases hzero : e = 0
  · subst hzero
    exact dif_pos hf
  · have hscale : (scale ⟨negative, ⟨e, he⟩, ⟨f, hf⟩⟩ + 1075).toNat = e := by
      simp only [scale]
      omega
    have hsignificand : significand ⟨negative, ⟨e, he⟩, ⟨f, hf⟩⟩ = 0x10000000000000 + f :=
      if_neg hzero
    unfold pack
    simp only [hscale, hsignificand]
    rw [dif_neg (by omega), dif_pos (by simp only at hfinite; omega)]
    simp only [Nat.add_mod_left, Nat.mod_eq_of_lt hf]

/-- The value of a finite number is rounded to that number. -/
theorem ofRatio_of_toRat (hfinite : x.isFinite = true) (hx : x.significand ≠ 0) (hden : 0 < den)
    (h : (num / den : ℚ) = x.toRat) : ofRatio x.negative num den = x := by
  have hnum : 0 < x.toRatio.1 := by
    rw [toRatio_fst]
    positivity
  have hpos : 0 < x.toRatio.2 := by
    rw [toRatio_snd]
    positivity
  have hfits : FitsScale (x.toRatio.1 / x.toRatio.2) x.scale := by
    rw [toRatio_div]
    exact x.fits_scale
  have hround : roundDiv (rescale x.toRatio.1 x.toRatio.2 x.scale).1
      (rescale x.toRatio.1 x.toRatio.2 x.scale).2 = x.significand := by
    rw [rescale_fst, rescale_snd, toRatio_fst, toRatio_snd, Nat.mul_assoc,
      Nat.mul_comm (2 ^ x.scale.toNat)]
    exact roundDiv_mul_self (by positivity) _
  rw [← toRatio_div] at h
  rw [ofRatio_congr hden hpos h, ofRatio_eq hnum hpos hfits, hround,
    if_neg x.significand_lt.ne, pack_significand hfinite]

end Binary64

/-- A natural number lies from one power of ten up to the next. -/
theorem Text.ofNat_length_bounds {n : Nat} (hn : 0 < n) :
    10 ^ ((ofNat n).length - 1) ≤ n ∧ n < 10 ^ (ofNat n).length := by
  have hpos : 0 < (ofNat n).length := Nat.length_toDigits_pos
  refine ⟨?_, (Nat.length_toDigits_le_iff (by omega) hpos).mp le_rfl⟩
  rcases Nat.eq_zero_or_pos ((ofNat n).length - 1) with h | h
  · rw [h]
    omega
  · have hiff : (ofNat n).length ≤ (ofNat n).length - 1 ↔ n < 10 ^ ((ofNat n).length - 1) :=
      Nat.length_toDigits_le_iff (by omega) h
    omega

namespace Decimal

variable {d d' : Decimal}

def toRat (d : Decimal) : ℚ :=
  d.digits * 10 ^ d.exponent

theorem toRat_eq_zero : d.toRat = 0 ↔ d.digits = 0 := by
  have hten : (10 : ℚ) ^ d.exponent ≠ 0 := zpow_ne_zero _ (by norm_num)
  simp [toRat, hten]

theorem place_bounds (h : d.digits ≠ 0) :
    (10 : ℚ) ^ (d.place - 1) ≤ d.toRat ∧ d.toRat < 10 ^ d.place := by
  obtain ⟨hle, hlt⟩ := Text.ofNat_length_bounds (Nat.pos_of_ne_zero h)
  have hpos : 0 < (Text.ofNat d.digits).length := Nat.length_toDigits_pos
  have hle : ((10 ^ ((Text.ofNat d.digits).length - 1) : Nat) : ℚ) ≤ d.digits := by
    exact_mod_cast hle
  have hlt : (d.digits : ℚ) < ((10 ^ (Text.ofNat d.digits).length : Nat) : ℚ) := by
    exact_mod_cast hlt
  push_cast at hle hlt
  unfold toRat place
  constructor
  · calc (10 : ℚ) ^ ((Text.ofNat d.digits).length + d.exponent - 1)
        = 10 ^ ((Text.ofNat d.digits).length - 1) * 10 ^ d.exponent := by
          rw [← zpow_natCast, ← zpow_add₀ (by norm_num)]
          congr 1
          omega
      _ ≤ d.digits * 10 ^ d.exponent := by gcongr
  · rw [zpow_add₀ (by norm_num), zpow_natCast]
    gcongr

theorem place_le (hd : d.digits ≠ 0) (hd' : d'.digits ≠ 0) (h : d.toRat ≤ d'.toRat) :
    d.place ≤ d'.place := by
  have hlt : (10 : ℚ) ^ (d.place - 1) < 10 ^ d'.place :=
    ((place_bounds hd).1.trans h).trans_lt (place_bounds hd').2
  have := (zpow_lt_zpow_iff_right₀ (by norm_num : (1 : ℚ) < 10)).mp hlt
  omega

theorem ratio_eq (d : Decimal) :
    ((d.digits * Nat.pow 10 d.exponent.toNat : Nat) / (Nat.pow 10 (-d.exponent).toNat : Nat) : ℚ) =
      d.toRat := by
  simp only [Nat.pow_eq, toRat, zpow_eq_div 10 d.exponent]
  push_cast
  exact mul_div_assoc _ _ _

/-- What a decimal is rounded to depends on its value alone. -/
theorem toBinary64_congr (h : d.toRat = d'.toRat) (negative : Bool) :
    d.toBinary64 negative = d'.toBinary64 negative := by
  unfold toBinary64
  by_cases hd : d.digits = 0
  · have hd' : d'.digits = 0 := by rwa [← toRat_eq_zero, ← h, toRat_eq_zero]
    rw [if_pos hd, if_pos hd']
  · have hd' : d'.digits ≠ 0 := by rwa [Ne, ← toRat_eq_zero, ← h, toRat_eq_zero]
    have hplace : d.place = d'.place := le_antisymm (place_le hd hd' h.le) (place_le hd' hd h.ge)
    have hratio := h
    rw [← ratio_eq, ← ratio_eq] at hratio
    rw [if_neg hd, if_neg hd', hplace]
    split
    · rfl
    split
    · rfl
    exact Binary64.ofRatio_congr (Nat.pow_pos (by omega)) (Nat.pow_pos (by omega)) hratio negative

end Decimal

namespace Binary64

variable {x : Binary64}

theorem eq_zero_of_significand (h : x.significand = 0) : x = zero x.negative := by
  obtain ⟨negative, ⟨e, he⟩, ⟨f, hf⟩⟩ := x
  unfold significand at h
  split at h
  · rename_i hzero
    simp only at hzero h
    subst hzero h
    rfl
  · omega

theorem two_pow_le_ten_pow (n : Nat) : (2 : ℚ) ^ (3 * n) ≤ 10 ^ n := by
  rw [pow_mul]
  exact pow_le_pow_left₀ (by norm_num) (by norm_num) n

theorem toRat_bounds (hfinite : x.isFinite = true) (hx : x.significand ≠ 0) :
    ((10 : ℚ) ^ 401)⁻¹ ≤ x.toRat ∧ x.toRat < 10 ^ 400 := by
  have hone : (1 : ℚ) ≤ x.significand := by exact_mod_cast Nat.pos_of_ne_zero hx
  have hsmallest := x.fits_scale.smallest
  have hlargest : x.scale ≤ 971 := by
    have hlt := x.exponent.isLt
    have hne : x.exponent.val ≠ 2047 := by simpa [isFinite] using hfinite
    unfold scale
    omega
  constructor
  · calc ((10 : ℚ) ^ 401)⁻¹ ≤ (2 ^ (3 * 401))⁻¹ := by
          gcongr
          exact two_pow_le_ten_pow 401
      _ = 2 ^ (-(3 * 401 : Nat) : Int) := by rw [zpow_neg, zpow_natCast]
      _ ≤ 2 ^ x.scale := zpow_le_zpow_right₀ (by norm_num) (by omega)
      _ ≤ x.significand * 2 ^ x.scale := le_mul_of_one_le_left (by positivity) hone
  · calc x.toRat < 2 ^ 53 * 2 ^ x.scale := x.fits_scale.below
      _ = 2 ^ (x.scale + 53) := by rw [zpow_add₀ two_ne_zero, mul_comm]; rfl
      _ ≤ 2 ^ ((3 * 400 : Nat) : Int) := zpow_le_zpow_right₀ (by norm_num) (by omega)
      _ ≤ 10 ^ 400 := by
          rw [zpow_natCast]
          exact two_pow_le_ten_pow 400

/-- The decimal value of a finite number lies in the range that is multiplied out. -/
theorem place_of_toRat {d : Decimal} (hfinite : x.isFinite = true) (hx : x.significand ≠ 0)
    (h : d.toRat = x.toRat) : d.digits ≠ 0 ∧ -400 ≤ d.place ∧ d.place ≤ 400 := by
  obtain ⟨hlow, hhigh⟩ := toRat_bounds hfinite hx
  rw [← h] at hlow hhigh
  have hd : d.digits ≠ 0 := by
    rw [Ne, ← Decimal.toRat_eq_zero]
    have hpos : (0 : ℚ) < (10 ^ 401)⁻¹ := by positivity
    exact (hpos.trans_le hlow).ne'
  obtain ⟨hle, hlt⟩ := Decimal.place_bounds hd
  have hten : (1 : ℚ) < 10 := by norm_num
  have hfirst : (10 : ℚ) ^ (-(401 : Nat) : Int) < 10 ^ d.place := by
    rw [zpow_neg, zpow_natCast]
    exact hlow.trans_lt hlt
  have hlast : (10 : ℚ) ^ (d.place - 1) < 10 ^ ((400 : Nat) : Int) := by
    rw [zpow_natCast]
    exact hle.trans_lt hhigh
  rw [zpow_lt_zpow_iff_right₀ hten] at hfirst hlast
  exact ⟨hd, by omega, by omega⟩

/-- A decimal with the value of a finite number reads back as that number. -/
theorem toBinary64_of_toRat {d : Decimal} (hfinite : x.isFinite = true) (h : d.toRat = x.toRat) :
    d.toBinary64 x.negative = x := by
  unfold Decimal.toBinary64
  by_cases hx : x.significand = 0
  · have hzero : d.digits = 0 := by
      rw [← Decimal.toRat_eq_zero, h, toRat, hx]
      simp
    rw [if_pos hzero]
    exact (eq_zero_of_significand hx).symm
  · obtain ⟨hd, hlow, hhigh⟩ := place_of_toRat hfinite hx h
    rw [if_neg hd, if_neg (by omega), if_neg (by omega)]
    exact ofRatio_of_toRat hfinite hx (Nat.pow_pos (by omega)) (d.ratio_eq.trans h)

theorem exactDecimal_toRat (x : Binary64) : x.exactDecimal.toRat = x.toRat := by
  unfold exactDecimal
  split
  · rename_i h
    obtain ⟨n, hn⟩ : ∃ n : Nat, x.scale = -n := ⟨(-x.scale).toNat, by omega⟩
    have hten : (10 : ℚ) ^ n = 5 ^ n * 2 ^ n := by rw [← mul_pow]; norm_num
    simp only [Decimal.toRat, toRat, hn, neg_neg, Int.toNat_natCast, zpow_neg, zpow_natCast, hten,
      Nat.pow_eq]
    push_cast
    field_simp
  · rename_i h
    obtain ⟨n, hn⟩ : ∃ n : Nat, x.scale = n := ⟨x.scale.toNat, by omega⟩
    simp only [Decimal.toRat, toRat, hn, Int.toNat_natCast, zpow_natCast, zpow_zero, mul_one,
      Nat.pow_eq]
    push_cast
    rfl

theorem stripZeros_toRat (fuel : Nat) (d : Decimal) : (stripZeros fuel d).toRat = d.toRat := by
  induction fuel generalizing d with
  | zero => rfl
  | succ fuel ih =>
    unfold stripZeros
    split
    · rename_i h
      have hdigits : (d.digits : ℚ) = (d.digits / 10 : Nat) * 10 := by
        exact_mod_cast (Nat.div_mul_cancel (Nat.dvd_of_mod_eq_zero h.2)).symm
      rw [ih, Decimal.toRat, Decimal.toRat, zpow_add_one₀ (by norm_num), hdigits]
      ring
    · rfl

theorem readsBack_of_withDigits {tie : TieRule} {n : Nat} {d : Decimal}
    (h : withDigits? tie x n = some d) : readsBack x d = true := by
  unfold withDigits? at h
  dsimp only at h
  split at h
  · rename_i hbelow habove
    split at h
    · cases h
      exact hbelow
    split at h
    · cases h
      exact habove
    split at h
    · cases h
      exact habove
    · cases h
      split
      · exact hbelow
      · exact habove
  · rename_i hbelow _
    cases h
    exact hbelow
  · rename_i habove
    cases h
    exact habove
  · cases h

/-- The shortest decimal of a finite number reads back as that number. -/
theorem shortest_toBinary64 (tie : TieRule) (h : x.isFinite = true) :
    (x.shortest tie).toBinary64 x.negative = x := by
  unfold shortest
  split
  · rename_i hx
    exact (eq_zero_of_significand hx).symm
  · dsimp only
    rw [Decimal.toBinary64_congr (stripZeros_toRat _ _)]
    cases hd : (List.range' 1 17).findSome? (withDigits? tie x) with
    | none => exact toBinary64_of_toRat h x.exactDecimal_toRat
    | some d =>
      obtain ⟨n, _, hn⟩ := List.exists_of_findSome?_eq_some hd
      exact beq_iff_eq.mp (readsBack_of_withDigits hn)

end Binary64

end RequestSql
