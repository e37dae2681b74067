import RequestSql.Number.Shortest

namespace RequestSql.Json

inductive Fault where
  | truncated
  | malformed
  | mistyped
  deriving DecidableEq

inductive Number where
  | int (n : Int)
  | float (x : Binary64)
  deriving DecidableEq

structure NumberText where
  negative : Bool
  whole : Text
  places : Text := []
  /-- The sign and the digits of the exponent. -/
  power : Option (Bool × Text) := none
  fault : Option Fault := none
  deriving DecidableEq

namespace NumberText

/-- The fault of something missing before the given text. -/
def faultAt (rest : Text) : Fault :=
  if rest.isEmpty then .truncated else .malformed

def scanPower (n : NumberText) (t : Text) : NumberText × Text :=
  let (negative, rest) :=
    match t with
    | '+' :: r => (false, r)
    | '-' :: r => (true, r)
    | _ => (false, t)
  let (digits, rest) := Decimal.spanDigits rest
  if digits.isEmpty then ({ n with fault := some (faultAt rest) }, rest)
  else ({ n with power := some (negative, digits) }, rest)

def scanTail (n : NumberText) (t : Text) : NumberText × Text :=
  match t with
  | 'e' :: rest => scanPower n rest
  | 'E' :: rest => scanPower n rest
  | _ => (n, t)

/-- A number after its sign, if it has one. A zero in front is followed by no digit, and a point
is followed by at least one. -/
def scan (negative : Bool) (t : Text) : NumberText × Text :=
  let (whole, rest) := Decimal.spanDigits t
  let n : NumberText := { negative, whole }
  match whole with
  | [] => ({ n with fault := some (faultAt rest) }, rest)
  | '0' :: _ :: _ => ({ n with fault := some .malformed }, rest)
  | _ =>
    match rest with
    | '.' :: rest =>
      let (places, rest) := Decimal.spanDigits rest
      if places.isEmpty then ({ n with fault := some (faultAt rest) }, rest)
      else scanTail { n with places } rest
    | _ => scanTail n rest

def maxSignificand : Nat := 0xFFFFFFFFFFFFFFFF

/-- Appends digits to a significand as long as it stays exact, and counts them. -/
def appendDigits (significand taken : Nat) : Text → Nat × Nat
  | [] => (significand, taken)
  | c :: rest =>
    let next := 10 * significand + (c.toNat - '0'.toNat)
    if next ≤ maxSignificand then appendDigits next (taken + 1) rest else (significand, taken)

def powerOfTen (n : Nat) : Binary64 :=
  .ofNat (Nat.pow 10 n)

def scaleDown : Nat → Binary64 → Nat → Binary64
  | 0, x, _ => x
  | steps + 1, x, n =>
    if n ≤ 308 then x.div (powerOfTen n) else scaleDown steps (x.div (powerOfTen 308)) (n - 308)

/-- The significand scaled by a power of ten: one multiplication, or divisions. A significand has
at most twenty digits, so the third division by the largest power makes it zero. -/
def scaled (significand : Nat) (exponent : Int) : Except Fault Binary64 :=
  let x := Binary64.ofNat significand
  if exponent < 0 then .ok (scaleDown 3 x exponent.natAbs)
  else if significand = 0 then .ok x
  else if 308 < exponent then .error .malformed
  else
    let y := x.mul (powerOfTen exponent.toNat)
    if y.isFinite then .ok y else .error .malformed

def maxPower : Nat := 0x7FFFFFFF

def magnitude (n : NumberText) : Except Fault Binary64 :=
  let (whole, taken) := appendDigits 0 0 n.whole
  let (significand, places) := appendDigits whole 0 n.places
  let exponent : Int := (n.whole.length : Int) - taken - places
  match n.power with
  | none => scaled significand exponent
  | some (negative, digits) =>
    let power := Text.digitsValue digits
    if maxPower < power then
      if significand ≠ 0 ∧ !negative then .error .malformed else .ok (.zero false)
    else scaled significand (if negative then exponent - power else exponent + power)

/-- The value. An integer that fits into 64 bits, with or without a sign, stays one; a negative
zero and everything else is a floating-point number. -/
def value (n : NumberText) : Except Fault Number :=
  match n.fault with
  | some f => .error f
  | none =>
    let whole := Text.digitsValue n.whole
    let integral := n.places.isEmpty && n.power.isNone
    if integral && !n.negative && whole ≤ maxSignificand then .ok (.int whole)
    else if integral && n.negative && 0 < whole && whole ≤ 0x8000000000000000 then .ok (.int (-(whole : Int)))
    else do
      let x ← n.magnitude
      return .float (if n.negative then x.neg else x)

end NumberText

namespace Number

/-- Whether a decimal is written with its point in place: from five places after the point up to
sixteen digits before it. -/
def isPositional (d : Decimal) : Bool :=
  -5 ≤ d.place - 1 && d.place - 1 ≤ 15

/-- A finite floating-point number in JSON: the shortest digits that read back, a tie going to
the even digit, with a digit after the point of a whole number. -/
def floatText (x : Binary64) : Text :=
  let sign := if x.negative then ['-'] else []
  let d := x.shortest .toEven
  if d.digits = 0 then sign ++ "0.0".toList
  else if isPositional d then
    sign ++ d.positional ++ (if 0 ≤ d.exponent then ".0".toList else [])
  else sign ++ d.scientific

/-- The text of a number. There is none for an infinity or a NaN, and `null` stands for it. -/
def text : Number → Text
  | .int n => Text.ofInt n
  | .float x => if x.isFinite then floatText x else "null".toList

end Number

end RequestSql.Json
