import RequestSql.Text.Basic

namespace RequestSql.Name

def isWord : Text → Bool
  | [] => false
  | c :: rest => (c.isAlpha || c == '_') && rest.all fun d => d.isAlphanum || d == '_'

def isIdentifier (name : Text) : Bool :=
  (Text.splitOn '.' name).all isWord

/-- What stands before the last point of a name. -/
def qualifier? (name : Text) : Option Text :=
  (Text.cutLast '.' name).map Prod.fst

end RequestSql.Name
