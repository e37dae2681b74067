import RequestSql.Text.Basic

namespace RequestSql.Utf8

def encode (t : Text) : List UInt8 :=
  t.flatMap String.utf8EncodeChar

def replacement : Char := '\ufffd'

inductive State where
  | start
  /-- Inside a character: the bits so far, the number of bytes still owed, and the range of the
  next one. -/
  | inside (bits owed low high : Nat)
  deriving DecidableEq

def first (b : Nat) : Text × State :=
  if b ≤ 0x7F then ([Char.ofNat b], .start)
  else if 0xC2 ≤ b ∧ b ≤ 0xDF then ([], .inside (b - 0xC0) 1 0x80 0xBF)
  else if b = 0xE0 then ([], .inside 0 2 0xA0 0xBF)
  else if b = 0xED then ([], .inside 0xD 2 0x80 0x9F)
  else if 0xE1 ≤ b ∧ b ≤ 0xEF then ([], .inside (b - 0xE0) 2 0x80 0xBF)
  else if b = 0xF0 then ([], .inside 0 3 0x90 0xBF)
  else if b = 0xF4 then ([], .inside 4 3 0x80 0x8F)
  else if 0xF1 ≤ b ∧ b ≤ 0xF3 then ([], .inside (b - 0xF0) 3 0x80 0xBF)
  else ([replacement], .start)

/-- The output and the state after a byte. A byte that cannot continue a character ends it with a
replacement and starts anew. -/
def step : State → Nat → Text × State
  | .start, b => first b
  | .inside bits owed low high, b =>
    if low ≤ b ∧ b ≤ high then
      let bits := bits * 64 + (b - 0x80)
      if owed = 1 then ([Char.ofNat bits], .start) else ([], .inside bits (owed - 1) 0x80 0xBF)
    else
      let (out, s) := first b
      (replacement :: out, s)

def decodeFrom : State → List UInt8 → Text
  | .start, [] => []
  | .inside _ _ _ _, [] => [replacement]
  | s, b :: rest =>
    let (out, s) := step s b.toNat
    out ++ decodeFrom s rest

/-- The text of bytes, with a replacement for every longest stretch that starts a character and
does not complete it. -/
def decodeLossy (bytes : List UInt8) : Text :=
  decodeFrom .start bytes

end RequestSql.Utf8
