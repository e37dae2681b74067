import RequestSql.Json.Value
import RequestSql.Schema.Basic

namespace RequestSql

open Json (Fault Node RecordField)

def Json.optionalMember (key : String) (value : Option Text) : List (Text × Json) :=
  match value with
  | some t => [(key.toList, .string t)]
  | none => []

namespace JoinSpec

def toJson (j : JoinSpec) : Json :=
  .object ([("type".toList, .string j.kind.sql), ("on".toList, .string j.predicate)] ++
    Json.optionalMember "alias" j.aliasName)

def readKind (node : Node) : Except Fault JoinType := do
  match JoinType.ofName? (← node.text) with
  | some kind => return kind
  | none => .error .mistyped

def fields : List (RecordField JoinSpec) :=
  [⟨"type".toList, fun node j => do return { j with kind := ← readKind node }⟩,
    ⟨"on".toList, fun node j => do return { j with predicate := ← node.text }⟩,
    ⟨"alias".toList, fun node j => do return { j with aliasName := ← node.optional Node.text }⟩]

def ofNode (node : Node) : Except Fault JoinSpec := do
  let (j, seen) ← node.record fields { predicate := [] }
  if seen.contains "on".toList then return j else .error .mistyped

end JoinSpec

namespace Table

def toJson (t : Table) : Json :=
  .object (Json.optionalMember "alias" t.aliasName ++
    [("columns".toList, .array (t.columns.map .string))] ++
    if t.joins.isEmpty then []
    else [("joins".toList, .object (t.joins.entries.map fun (name, j) => (name, j.toJson)))])

def fields : List (RecordField Table) :=
  [⟨"alias".toList, fun node t => do return { t with aliasName := ← node.optional Node.text }⟩,
    ⟨"columns".toList, fun node t => do return { t with columns := ← node.list Node.text }⟩,
    ⟨"joins".toList, fun node t => do
      return { t with joins := .ofPairs (← node.members JoinSpec.ofNode) }⟩]

def ofNode (node : Node) : Except Fault Table := do
  return (← node.record fields {}).1

end Table

namespace Schema

def toJson (s : Schema) : Json :=
  .object (s.tables.entries.map fun (name, t) => (name, t.toJson))

def ofNode (node : Node) : Except Fault Schema := do
  return ⟨.ofPairs (← node.members Table.ofNode)⟩

def parse (t : Text) : Except Fault Schema :=
  Json.decode ofNode t

end Schema

end RequestSql
