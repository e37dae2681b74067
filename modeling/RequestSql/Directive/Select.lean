import RequestSql.Statement.Column

namespace RequestSql.Select

def parseEntry (entry : Text) : Except CompileError Column := do
  let entry := Text.trim entry
  if entry = ['*'] then return .all
  else
    Name.check (.directive .select) entry
    return .field entry

def parse (value : Text) : Except CompileError (List Column) :=
  (Text.splitOn ',' value).mapM parseEntry

end RequestSql.Select
