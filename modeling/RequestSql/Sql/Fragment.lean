import RequestSql.Sql.Value

namespace RequestSql

inductive PlaceholderStyle where
  | mysql
  | postgres
  deriving DecidableEq

namespace PlaceholderStyle

def name : PlaceholderStyle → Text
  | .mysql => "mysql".toList
  | .postgres => "postgres".toList

def placeholder : PlaceholderStyle → Nat → Text
  | .mysql, _ => ['?']
  | .postgres, position => '$' :: Text.ofNat position

def ofName? (name : Text) : Option PlaceholderStyle :=
  let name := Text.asciiLower name
  if name = "mysql".toList then some .mysql
  else if name = "postgres".toList ∨ name = "postgresql".toList then some .postgres
  else none

def unknownMessage (name : Text) : Text :=
  "unknown placeholder style: ".toList ++ Text.asciiLower name

end PlaceholderStyle

inductive Piece where
  | text (t : Text)
  | parameter (v : Value)
  deriving DecidableEq

abbrev Fragment := List Piece

namespace Fragment

def params : Fragment → List Value
  | [] => []
  | .text _ :: rest => params rest
  | .parameter v :: rest => v :: params rest

/-- The text when the next parameter has the given position. -/
def renderFrom (style : PlaceholderStyle) : Nat → Fragment → Text
  | _, [] => []
  | position, .text t :: rest => t ++ renderFrom style position rest
  | position, .parameter _ :: rest =>
    style.placeholder position ++ renderFrom style (position + 1) rest

def render (style : PlaceholderStyle) (f : Fragment) : Text :=
  renderFrom style 1 f

end Fragment

end RequestSql
