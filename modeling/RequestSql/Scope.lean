import RequestSql.Name
import RequestSql.Schema.Basic

namespace RequestSql

structure Scope where
  schema : Schema
  table : Text
  aliasName : Option Text
  deriving DecidableEq

structure PlannedJoin where
  table : Text
  aliasName : Text
  spec : JoinSpec
  deriving DecidableEq

/-- The join in SQL. The alias is left out where it is the table's name, and a cross join has no
predicate. -/
def PlannedJoin.sql (j : PlannedJoin) : Text :=
  j.spec.kind.sql ++ " JOIN ".toList ++ j.table ++
    (if j.aliasName = j.table then [] else ' ' :: j.aliasName) ++
    (if j.spec.kind = .cross then [] else " ON ".toList ++ j.spec.predicate)

namespace Scope

def declaredJoins (s : Scope) : List (Text × JoinSpec) :=
  match s.schema.get? s.table with
  | some t => t.joins.entries
  | none => []

def joinAlias? (s : Scope) (relation : Text) : Option Text :=
  (s.declaredJoins.lookup relation).map (s.schema.joinQualifier relation)

/-- What is put before a name that no table declares. -/
def defaultQualifier (s : Scope) : Text :=
  match s.aliasName with
  | some a => a ++ ['.']
  | none => []

def tableQualifier (s : Scope) (name : Text) : Text :=
  if name = s.table then s.aliasName.getD name
  else (s.joinAlias? name).getD (s.schema.qualifier name)

def owner? (s : Scope) (field : Text) : Option Text :=
  (s.schema.tables.entries.find? fun (_, t) => t.hasColumn field).map Prod.fst

/-- A field with its qualifier. A field that has a point in it stays; one that no table declares
belongs to the primary table. -/
def resolve (s : Scope) (field : Text) : Text :=
  if '.' ∈ field then field
  else
    match s.owner? field with
    | some name => s.tableQualifier name ++ '.' :: field
    | none => s.defaultQualifier ++ field

def needs (s : Scope) (references expanded : List Text) (name : Text) (spec : JoinSpec) : Bool :=
  expanded.contains name ||
    (references.filterMap Name.qualifier?).contains (s.schema.joinQualifier name spec)

def plan (s : Scope) (references expanded : List Text) : List PlannedJoin :=
  (s.declaredJoins.filter fun (name, spec) => s.needs references expanded name spec).map
    fun (name, spec) => ⟨name, s.schema.joinQualifier name spec, spec⟩

end Scope

end RequestSql
