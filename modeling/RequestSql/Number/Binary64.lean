namespace RequestSql

structure Binary64 where
  negative : Bool
  exponent : Fin 2048
  fraction : Fin (0x10000000000000)
  deriving DecidableEq

namespace Binary64

def zero (negative : Bool) : Binary64 :=
  ⟨negative, ⟨0, by decide⟩, ⟨0, by decide⟩⟩

def infinity (negative : Bool) : Binary64 :=
  ⟨negative, ⟨2047, by decide⟩, ⟨0, by decide⟩⟩

def nan : Binary64 :=
  ⟨false, ⟨2047, by decide⟩, ⟨0x8000000000000, by decide⟩⟩

def isFinite (x : Binary64) : Bool :=
  x.exponent.val != 2047

def isNaN (x : Binary64) : Bool :=
  x.exponent.val == 2047 && x.fraction.val != 0

/-- The integer that the power of two `2 ^ scale` is multiplied with. -/
def significand (x : Binary64) : Nat :=
  if x.exponent.val = 0 then x.fraction.val else 0x10000000000000 + x.fraction.val

def scale (x : Binary64) : Int :=
  max (x.exponent.val : Int) 1 - 1075

def toRatio (x : Binary64) : Nat × Nat :=
  (x.significand * Nat.pow 2 x.scale.toNat, Nat.pow 2 (-x.scale).toNat)

/-- The number with a significand below `2 ^ 53` and a scale; infinite where the scale is too
large. A significand below `2 ^ 52` belongs to the smallest scale. -/
def pack (negative : Bool) (n : Nat) (scale : Int) : Binary64 :=
  if h : n < 0x10000000000000 then ⟨negative, ⟨0, by decide⟩, ⟨n, h⟩⟩
  else if h : (scale + 1075).toNat < 2047 then
    ⟨negative, ⟨(scale + 1075).toNat, by omega⟩, ⟨n % 0x10000000000000, Nat.mod_lt _ (by decide)⟩⟩
  else infinity negative

/-- The quotient rounded to the nearest integer, a tie to the even one. -/
def roundDiv (num den : Nat) : Nat :=
  let n := num / den
  let r := num % den
  if den < 2 * r ∨ (2 * r = den ∧ n % 2 = 1) then n + 1 else n

def rescale (num den : Nat) (scale : Int) : Nat × Nat :=
  (num * Nat.pow 2 (-scale).toNat, den * Nat.pow 2 scale.toNat)

def scaleFor (num den : Nat) : Int :=
  let low := max ((num.log2 : Int) - den.log2 - 53) (-1074)
  let (a, b) := rescale num den low
  if 0x20000000000000 ≤ a / b then low + 1 else low

/-- The number nearest to a ratio with positive denominator, a tie to the even one. -/
def ofRatio (negative : Bool) (num den : Nat) : Binary64 :=
  if num = 0 then zero negative
  else
    let scale := scaleFor num den
    let (a, b) := rescale num den scale
    let n := roundDiv a b
    if n = 0x20000000000000 then pack negative (0x10000000000000) (scale + 1) else pack negative n scale

def ofNat (n : Nat) : Binary64 :=
  ofRatio false n 1

def neg (x : Binary64) : Binary64 :=
  { x with negative := !x.negative }

def mul (x y : Binary64) : Binary64 :=
  ofRatio (x.negative != y.negative) (x.toRatio.1 * y.toRatio.1) (x.toRatio.2 * y.toRatio.2)

def div (x y : Binary64) : Binary64 :=
  ofRatio (x.negative != y.negative) (x.toRatio.1 * y.toRatio.2) (x.toRatio.2 * y.toRatio.1)

end Binary64

end RequestSql
