import RequestSql.Json.Value
import RequestSql.Statement.Compile

namespace RequestSql

structure Query where
  sql : Text
  params : List Value
  deriving DecidableEq

/-- A parameter as JSON. Numbers that are not finite have no JSON form. -/
def Value.toJson : Value → Json
  | .null => .null
  | .bool b => .bool b
  | .int n => .number (.int n.toInt)
  | .float x => if x.isFinite then .number (.float x) else .null
  | .text t => .string t

namespace Query

def toJson (q : Query) : Json :=
  .object [("sql".toList, .string q.sql), ("params".toList, .array (q.params.map Value.toJson))]

def ofStatement (style : PlaceholderStyle) (s : Statement) : Query :=
  { sql := s.sql style, params := s.params }

end Query

def compileParams (o : Options) (p : Params) : Except CompileError Query := do
  return .ofStatement o.style (← o.statement p.directives)

def compile (o : Options) (source : Source) : Except CompileError Query := do
  compileParams o (← source.toParams)

end RequestSql
