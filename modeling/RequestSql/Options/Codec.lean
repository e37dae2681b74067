import RequestSql.Options.Basic
import RequestSql.Schema.Codec

namespace RequestSql

open Json (Fault Node RecordField)

namespace PlaceholderStyle

def ofExactName (name : Text) : Except Fault PlaceholderStyle :=
  if name = PlaceholderStyle.mysql.name then .ok .mysql
  else if name = PlaceholderStyle.postgres.name then .ok .postgres
  else .error .mistyped

/-- A style is written as a string, or as an object whose one member has its name for a key and
`null` for a value. -/
def ofNode : Node → Except Fault PlaceholderStyle
  | .string s => do ofExactName (← s.text)
  | .object (.cons key value rest) => do
    let style ← ofExactName (← key.text)
    match value with
    | .null => pure ()
    | value => .error value.mismatch
    match rest with
    | .closed => return style
    | .broken f => .error f
    | _ => .error .malformed
  | .object (.unnamed found) => .error found.mismatch
  | .object (.broken f) => .error f
  | .broken f => .error f
  | _ => .error .malformed

end PlaceholderStyle

namespace Options

def toJson (o : Options) : Json :=
  .object ([("table".toList, .string o.table)] ++ Json.optionalMember "alias" o.aliasName ++
    [("schema".toList, o.schema.toJson), ("placeholderStyle".toList, .string o.style.name)])

def fields : List (RecordField Options) :=
  [⟨"table".toList, fun node o => do return { o with table := ← node.text }⟩,
    ⟨"alias".toList, fun node o => do return { o with aliasName := ← node.optional Node.text }⟩,
    ⟨"schema".toList, fun node o => do return { o with schema := ← Schema.ofNode node }⟩,
    ⟨"placeholderStyle".toList, fun node o => do
      return { o with style := ← PlaceholderStyle.ofNode node }⟩]

def ofNode (node : Node) : Except Fault Options := do
  return (← node.record fields {}).1

def parse (t : Text) : Except Fault Options :=
  Json.decode ofNode t

end Options

end RequestSql
