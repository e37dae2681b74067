import RequestSql.Error

namespace RequestSql.Paging

def maxNumber : Nat := 0xFFFFFFFFFFFFFFFF

/-- Decimal digits of a number that can be asked for, after an optional plus sign. -/
def number? (t : Text) : Option Nat :=
  let digits :=
    match t with
    | '+' :: rest => rest
    | _ => t
  if !digits.isEmpty && digits.all Char.isDigit && Text.digitsValue digits ≤ maxNumber then
    some (Text.digitsValue digits)
  else none

def parse (directive : Directive) (value : Text) : Except CompileError Nat :=
  match number? (Text.trim value) with
  | some n => .ok n
  | none => .error (.invalidPaging directive value)

end RequestSql.Paging
