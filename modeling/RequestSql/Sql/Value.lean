import RequestSql.Number.Shortest

namespace RequestSql

inductive Value where
  | null
  | bool (b : Bool)
  | int (n : Int64)
  | float (x : Binary64)
  | text (t : Text)
  deriving DecidableEq

/-- Plain text of a floating-point number: the shortest digits that read back, never with an
exponent, a tie going up. -/
def Binary64.plain (x : Binary64) : Text :=
  let sign := if x.negative then ['-'] else []
  if x.isNaN then "NaN".toList
  else if !x.isFinite then sign ++ "inf".toList
  else sign ++ (x.shortest .up).positional

def Text.quoted (t : Text) : Text :=
  '\'' :: (t.flatMap fun c => if c = '\'' then ['\'', '\''] else [c]) ++ ['\'']

def Value.inline : Value → Text
  | .null => "NULL".toList
  | .bool true => "TRUE".toList
  | .bool false => "FALSE".toList
  | .int n => Text.ofInt n.toInt
  | .float x => x.plain
  | .text t => Text.quoted t

end RequestSql
