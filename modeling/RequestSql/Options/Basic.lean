import RequestSql.Scope
import RequestSql.Sql.Fragment

namespace RequestSql

structure Options where
  table : Text := "my_table".toList
  aliasName : Option Text := none
  schema : Schema := {}
  style : PlaceholderStyle := .mysql
  deriving DecidableEq

namespace Options

/-- What the primary table is called: the alias given, or else the one that the schema declares. -/
def effectiveAlias (o : Options) : Option Text :=
  o.aliasName <|> (o.schema.get? o.table).bind Table.aliasName

def scope (o : Options) : Scope :=
  { schema := o.schema, table := o.table, aliasName := o.effectiveAlias }

end Options

end RequestSql
