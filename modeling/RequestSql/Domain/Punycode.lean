import RequestSql.Text.Basic

namespace RequestSql.Punycode

def digitValue? (c : Char) : Option Nat :=
  if 'a' ≤ c ∧ c ≤ 'z' then some (c.toNat - 'a'.toNat)
  else if 'A' ≤ c ∧ c ≤ 'Z' then some (c.toNat - 'A'.toNat)
  else if c.isDigit then some (c.toNat - '0'.toNat + 26)
  else none

/-- The digit below which a number ends, `k` being 36 times the digit's place. -/
def threshold (k bias : Nat) : Nat :=
  if k ≤ bias then 1 else min (k - bias) 26

/-- Divides by 35 while the number is above 455; counts 36 for each division. -/
def shrink : Nat → Nat → Nat → Nat × Nat
  | 0, delta, k => (delta, k)
  | fuel + 1, delta, k => if 455 < delta then shrink fuel (delta / 35) (k + 36) else (delta, k)

def adapt (delta size : Nat) (first : Bool) : Nat :=
  let delta := if first then delta / 700 else delta / 2
  let (delta, k) := shrink 16 (delta + delta / size) 0
  k + 36 * delta / (delta + 38)

structure State where
  output : Text
  code : Nat := 128
  bias : Nat := 72
  place : Nat := 0
  /-- The place before the number that is being read. -/
  start : Nat := 0
  weight : Nat := 1
  k : Nat := 36

def State.isWhole (s : State) : Bool :=
  s.k == 36

def isScalar (n : Nat) : Bool :=
  n < 0xD800 || (0xDFFF < n && n ≤ 0x10FFFF)

def State.next? (s : State) (c : Char) : Option State := do
  let d ← digitValue? c
  let place := s.place + d * s.weight
  if 0x100000000 ≤ place then none
  else
    let t := threshold s.k s.bias
    if t ≤ d then
      let weight := s.weight * (36 - t)
      if 0x100000000 ≤ weight then none else return { s with place, weight, k := s.k + 36 }
    else
      let size := s.output.length + 1
      let code := s.code + place / size
      if isScalar code then
        let index := place % size
        return {
          output := s.output.take index ++ Char.ofNat code :: s.output.drop index
          code
          bias := adapt (place - s.start) size (s.start == 0)
          place := index + 1
          start := index + 1 }
      else none

/-- The plain characters and the digits of a label: the last hyphen stands between them. Without
plain characters there is no hyphen. -/
def divide (label : Text) : Text × Text :=
  match Text.cutLast '-' label with
  | some (c :: plain, digits) => (c :: plain, digits)
  | _ => ([], label)

/-- The decoded label. It has digits, and they spell whole numbers. -/
def decode? (label : Text) : Option Text :=
  let (plain, digits) := divide label
  if digits.isEmpty then none
  else
    match digits.foldlM State.next? { output := plain } with
    | some s => if s.isWhole then some s.output else none
    | none => none

end RequestSql.Punycode
