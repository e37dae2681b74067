import RequestSql.Schema.NameMap

namespace RequestSql

inductive JoinType where
  | left | inner | right | full | cross
  deriving DecidableEq

namespace JoinType

def sql : JoinType → Text
  | .left => "LEFT".toList
  | .inner => "INNER".toList
  | .right => "RIGHT".toList
  | .full => "FULL".toList
  | .cross => "CROSS".toList

def normalName (name : Text) : Text :=
  Text.asciiUpper (Text.trim name)

def ofName? (name : Text) : Option JoinType :=
  let name := normalName name
  if name = "LEFT".toList ∨ name = "LEFT OUTER".toList then some .left
  else if name = "INNER".toList then some .inner
  else if name = "RIGHT".toList ∨ name = "RIGHT OUTER".toList then some .right
  else if name = "FULL".toList ∨ name = "FULL OUTER".toList then some .full
  else if name = "CROSS".toList then some .cross
  else none

def unknownMessage (name : Text) : Text :=
  "unknown join type: ".toList ++ normalName name

end JoinType

structure JoinSpec where
  kind : JoinType := .left
  predicate : Text
  aliasName : Option Text := none
  deriving DecidableEq

structure Table where
  aliasName : Option Text := none
  columns : List Text := []
  joins : NameMap JoinSpec := .empty
  deriving DecidableEq

namespace Table

def hasColumn (t : Table) (column : Text) : Bool :=
  t.columns.contains column

def withAlias (t : Table) (aliasName : Text) : Table :=
  { t with aliasName := some aliasName }

def join (t : Table) (name : Text) (spec : JoinSpec) : Table :=
  { t with joins := t.joins.insert name spec }

end Table

structure Schema where
  tables : NameMap Table := .empty
  deriving DecidableEq

namespace Schema

def table (s : Schema) (name : Text) (t : Table) : Schema :=
  ⟨s.tables.insert name t⟩

def get? (s : Schema) (name : Text) : Option Table :=
  s.tables.get? name

def qualifier (s : Schema) (name : Text) : Text :=
  ((s.get? name).bind Table.aliasName).getD name

/-- What a joined table is called: the alias of the join, or else the table's qualifier. -/
def joinQualifier (s : Schema) (name : Text) (spec : JoinSpec) : Text :=
  spec.aliasName.getD (s.qualifier name)

end Schema

end RequestSql
