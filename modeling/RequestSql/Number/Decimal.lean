import RequestSql.Number.Binary64
import RequestSql.Text.Basic

namespace RequestSql

/-- The number `digits · 10 ^ exponent`. -/
structure Decimal where
  digits : Nat
  exponent : Int
  deriving DecidableEq

namespace Decimal

/-- The place of the leading digit: the number lies in `[10 ^ (place - 1), 10 ^ place)`. -/
def place (d : Decimal) : Int :=
  (Text.ofNat d.digits).length + d.exponent

/-- The nearest binary64 number. Numbers out of all range are not multiplied out. -/
def toBinary64 (negative : Bool) (d : Decimal) : Binary64 :=
  if d.digits = 0 then .zero negative
  else if 400 < d.place then .infinity negative
  else if d.place < -400 then .zero negative
  else
    .ofRatio negative (d.digits * Nat.pow 10 d.exponent.toNat) (Nat.pow 10 (-d.exponent).toNat)

def spanDigits (t : Text) : Text × Text :=
  (t.takeWhile Char.isDigit, t.dropWhile Char.isDigit)

/-- The number that the digits of an exponent stand for. Digits after one that takes it to `2 ^ 16`
are passed over, since no exponent of that size is in range. -/
def exponentValue (digits : Text) : Nat :=
  digits.foldl (fun n c => if n < 0x10000 then 10 * n + (c.toNat - '0'.toNat) else n) 0

def readExponent? (t : Text) : Option Int :=
  let (negative, digits) :=
    match t with
    | '-' :: r => (true, r)
    | '+' :: r => (false, r)
    | _ => (false, t)
  if digits.isEmpty || !digits.all Char.isDigit then none
  else
    let n : Int := exponentValue digits
    some (if negative then -n else n)

def read? (t : Text) : Option Decimal :=
  let (whole, rest) := spanDigits t
  let (places, rest) :=
    match rest with
    | '.' :: r => spanDigits r
    | _ => ([], rest)
  if whole.isEmpty && places.isEmpty then none
  else
    let digits := Text.digitsValue (whole ++ places)
    match rest with
    | [] => some ⟨digits, -(places.length : Int)⟩
    | e :: r =>
      if e = 'e' ∨ e = 'E' then
        (readExponent? r).map fun n => ⟨digits, n - places.length⟩
      else none

end Decimal

/-- Reads a floating-point number: an optional sign, then a decimal or, in any case of letters,
`inf`, `infinity` or `nan`. -/
def Binary64.read? (t : Text) : Option Binary64 :=
  let (negative, magnitude) :=
    match t with
    | '-' :: r => (true, r)
    | '+' :: r => (false, r)
    | _ => (false, t)
  let word := Text.asciiLower magnitude
  if word = "inf".toList ∨ word = "infinity".toList then some (.infinity negative)
  else if word = "nan".toList then some { Binary64.nan with negative }
  else (Decimal.read? magnitude).map (Decimal.toBinary64 negative)

end RequestSql
