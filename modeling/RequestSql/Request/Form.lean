import RequestSql.Text.Utf8

namespace RequestSql.Form

def hexValue? (b : UInt8) : Option UInt8 :=
  if 0x30 ≤ b ∧ b ≤ 0x39 then some (b - 0x30)
  else if 0x41 ≤ b ∧ b ≤ 0x46 then some (b - 0x37)
  else if 0x61 ≤ b ∧ b ≤ 0x66 then some (b - 0x57)
  else none

/-- Puts bytes in place of percent signs and the two digits after them. A percent sign without
two digits stays. -/
def percentDecode : List UInt8 → List UInt8
  | [] => []
  | 0x25 :: high :: low :: rest =>
    match hexValue? high, hexValue? low with
    | some h, some l => (h * 16 + l) :: percentDecode rest
    | _, _ => 0x25 :: percentDecode (high :: low :: rest)
  | b :: rest => b :: percentDecode rest

def decode (t : Text) : Text :=
  Utf8.decodeLossy
    (percentDecode (Utf8.encode (t.map fun c => if c = '+' then ' ' else c)))

def decodePair (piece : Text) : Text × Text :=
  match Text.cut '=' piece with
  | some (name, value) => (decode name, decode value)
  | none => (decode piece, [])

def parse (query : Text) : List (Text × Text) :=
  ((Text.splitOn '&' query).filter fun piece => !piece.isEmpty).map decodePair

end RequestSql.Form
