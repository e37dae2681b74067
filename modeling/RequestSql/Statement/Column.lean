import RequestSql.Directive.Apply

namespace RequestSql

inductive Column where
  | all
  | field (name : Text)
  | aggregate (a : Aggregate)
  deriving DecidableEq

namespace Column

def sql : Column → Text
  | .all => ['*']
  | .field name => name
  | .aggregate a => a.sql

def reference : Column → Text
  | .all => ['*']
  | .field name => name
  | .aggregate a => a.operand.text

def map (f : Text → Text) : Column → Column
  | .all => .all
  | .field name => .field (f name)
  | .aggregate a => .aggregate { a with operand := a.operand.map f }

end Column

end RequestSql
