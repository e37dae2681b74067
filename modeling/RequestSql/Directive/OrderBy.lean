import RequestSql.Error

namespace RequestSql

structure SortKey where
  field : Text
  direction : Option Text := none
  deriving DecidableEq

def SortKey.sql (k : SortKey) : Text :=
  match k.direction with
  | some direction => k.field ++ ' ' :: direction
  | none => k.field

def SortKey.mapField (f : Text → Text) (k : SortKey) : SortKey :=
  { k with field := f k.field }

namespace OrderBy

def isDirection (word : Text) : Bool :=
  Text.asciiLower word == "asc".toList || Text.asciiLower word == "desc".toList

def parseEntry (entry : Text) : Except CompileError SortKey := do
  match Text.words entry with
  | [field] =>
    Name.check (.directive .orderBy) field
    return { field }
  | [field, direction] =>
    if isDirection direction then
      Name.check (.directive .orderBy) field
      return { field, direction := some direction }
    else .error (.invalidOrderBy (Text.trim entry))
  | _ => .error (.invalidOrderBy (Text.trim entry))

def parse (value : Text) : Except CompileError (List SortKey) :=
  (Text.splitOn ',' value).mapM parseEntry

end OrderBy

end RequestSql
