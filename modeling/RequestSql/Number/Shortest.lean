import RequestSql.Number.Decimal

namespace RequestSql

inductive TieRule where
  | up
  | toEven
  deriving DecidableEq

namespace Binary64

/-- The place of the leading decimal digit of a positive ratio: the least `p` with
`num / den < 10 ^ p`. -/
def decimalPlace (num den : Nat) : Int :=
  if den ≤ num then (Text.ofNat (num / den)).length
  else
    -- The least `j` with `den / num ≤ 10 ^ j`.
    let j := if (den - 1) / num = 0 then 0 else (Text.ofNat ((den - 1) / num)).length
    1 - (j : Int)

def readsBack (x : Binary64) (d : Decimal) : Bool :=
  d.toBinary64 x.negative == x

/-- The decimal of at most `n` digits that reads back as `x`: of the two neighbours of `x` among
the decimals of that length, the one that reads back, or the nearer one if both do. -/
def withDigits? (tie : TieRule) (x : Binary64) (n : Nat) : Option Decimal :=
  let (num, den) := x.toRatio
  let exponent := decimalPlace num den - n
  let a := num * Nat.pow 10 (-exponent).toNat
  let b := den * Nat.pow 10 exponent.toNat
  let below : Decimal := ⟨a / b, exponent⟩
  let above : Decimal := ⟨a / b + 1, exponent⟩
  match readsBack x below, readsBack x above with
  | true, true =>
    let r := a % b
    if 2 * r < b then some below
    else if b < 2 * r then some above
    else
      match tie with
      | .up => some above
      | .toEven => some (if a / b % 2 = 0 then below else above)
  | true, false => some below
  | false, true => some above
  | false, false => none

def exactDecimal (x : Binary64) : Decimal :=
  if x.scale < 0 then ⟨x.significand * Nat.pow 5 (-x.scale).toNat, x.scale⟩
  else ⟨x.significand * Nat.pow 2 x.scale.toNat, 0⟩

def stripZeros : Nat → Decimal → Decimal
  | 0, d => d
  | fuel + 1, d =>
    if d.digits ≠ 0 ∧ d.digits % 10 = 0 then stripZeros fuel ⟨d.digits / 10, d.exponent + 1⟩
    else d

def shortest (tie : TieRule) (x : Binary64) : Decimal :=
  if x.significand = 0 then ⟨0, 0⟩
  else
    let d := ((List.range' 1 17).findSome? (withDigits? tie x)).getD (exactDecimal x)
    stripZeros (Text.ofNat d.digits).length d

end Binary64

namespace Decimal

def positional (d : Decimal) : Text :=
  let digits := Text.ofNat d.digits
  if 0 ≤ d.exponent then digits ++ List.replicate d.exponent.toNat '0'
  else
    let places := (-d.exponent).toNat
    if places < digits.length then
      digits.take (digits.length - places) ++ '.' :: digits.drop (digits.length - places)
    else '0' :: '.' :: (List.replicate (places - digits.length) '0' ++ digits)

def scientific (d : Decimal) : Text :=
  let power := d.place - 1
  let sign := if power < 0 then '-' else '+'
  let mantissa :=
    match Text.ofNat d.digits with
    | [] => []
    | [digit] => [digit]
    | digit :: rest => digit :: '.' :: rest
  mantissa ++ 'e' :: sign :: Text.ofNat power.natAbs

end Decimal

end RequestSql
