import RequestSql.Directive.Expand
import RequestSql.Directive.Paging
import RequestSql.Directive.Select
import RequestSql.Filter.Parser
import RequestSql.Options.Basic
import RequestSql.Request.Source
import RequestSql.Statement.Basic

namespace RequestSql

structure Projection where
  columns : List Column
  groupBy : List Text := []
  deriving DecidableEq

namespace Scope

/-- Refuses expansions of tables to which the primary table declares no join. -/
def checkRelations (s : Scope) : List Expansion → Except CompileError Unit
  | [] => .ok ()
  | e :: rest =>
    match s.joinAlias? e.table with
    | none => .error (.unknownRelation s.table e.table)
    | some _ => s.checkRelations rest

def expansionColumns (s : Scope) (e : Expansion) : List Column :=
  let aliasName := (s.joinAlias? e.table).getD e.table
  e.selects.map fun field => .field (if '.' ∈ field then field else aliasName ++ '.' :: field)

def groupedProjection (s : Scope) (g : Grouping) : Projection :=
  let keys := g.fields.map s.resolve
  { columns := keys.map .field ++ g.aggregates.map fun a => (Column.aggregate a).map s.resolve
    groupBy := keys }

def plainProjection (s : Scope) (selected : Option (List Column)) (expansions : List Expansion) :
    Projection :=
  { columns := (selected.getD [.all]).map (Column.map s.resolve) ++
      expansions.flatMap s.expansionColumns }

end Scope

def Directives.read {α : Type} (given : Directives) (d : Directive)
    (parse : Text → Except CompileError α) : Except CompileError (Option α) :=
  match given d with
  | some value => do return some (← parse value)
  | none => .ok none

namespace Options

def check (o : Options) : Except CompileError Unit := do
  Name.check .table o.table
  match o.effectiveAlias with
  | some aliasName => Name.check .aliasName aliasName
  | none => .ok ()

def expansions (o : Options) (given : Directives) : Except CompileError (List Expansion) := do
  let expansions := (← given.read .expand Expand.parse).getD []
  o.scope.checkRelations expansions
  return expansions

/-- What is selected. A grouping takes the place of a selection. -/
def projection (o : Options) (given : Directives) (expansions : List Expansion) :
    Except CompileError Projection :=
  match given .apply with
  | some value => do return o.scope.groupedProjection (← Apply.parse value)
  | none => do
    return o.scope.plainProjection (← given.read .select Select.parse) expansions

def parseFilter (o : Options) (value : Text) : Except CompileError Filter :=
  match Filter.parse value with
  | .ok f => .ok (f.mapFields o.scope.resolve)
  | .error e => .error (.invalidFilter e)

def parseOrderBy (o : Options) (value : Text) : Except CompileError (List SortKey) := do
  return (← OrderBy.parse value).map (SortKey.mapField o.scope.resolve)

structure Clauses where
  orderBy : List SortKey
  limit : Option Nat
  offset : Option Nat

def clauses (o : Options) (given : Directives) : Except CompileError Clauses := do
  let orderBy := (← given.read .orderBy o.parseOrderBy).getD []
  let limit ← given.read .top (Paging.parse .top)
  let offset ← given.read .skip (Paging.parse .skip)
  return { orderBy, limit, offset }

def assemble (o : Options) (expansions : List Expansion) (p : Projection) (filter : Option Filter)
    (c : Clauses) : Statement :=
  let references := p.columns.map Column.reference ++ (filter.map Filter.fields).getD [] ++
    c.orderBy.map SortKey.field
  { columns := p.columns
    table := o.table
    aliasName := o.effectiveAlias
    joins := o.scope.plan references (expansions.map Expansion.table)
    filter
    groupBy := p.groupBy
    orderBy := c.orderBy
    limit := c.limit
    offset := c.offset }

/-- The statement that directives ask for. The first directive that is wrong decides the error,
in a fixed order of the directives. -/
def statement (o : Options) (given : Directives) : Except CompileError Statement := do
  o.check
  let expansions ← o.expansions given
  let projection ← o.projection given expansions
  let filter ← given.read .filter o.parseFilter
  let clauses ← o.clauses given
  return o.assemble expansions projection filter clauses

end Options

end RequestSql
