import RequestSql.Error
import RequestSql.Json.Value
import RequestSql.Request.Url

namespace RequestSql

inductive Source where
  | query (text : Text)
  | params (p : Params)
  | url (text : Text)
  deriving DecidableEq

def Json.kind : Json → InputKind
  | .null => .null
  | .bool _ => .boolean
  | .number _ => .number
  | .string _ => .string
  | .array _ => .array
  | .object _ => .object

namespace Source

def scalar (name : Text) : Json → Except CompileError Text
  | .string t => .ok t
  | .number n => .ok n.text
  | .bool true => .ok "true".toList
  | .bool false => .ok "false".toList
  | json => .error (.unsupportedInput (.notAScalar name json.kind))

def values (name : Text) : Json → Except CompileError (List Text)
  | .array items => items.mapM (scalar name)
  | json => do return [← scalar name json]

def pairs : List (Text × Json) → Except CompileError (List (Text × Text))
  | [] => .ok []
  | (name, value) :: rest => do
    let first ← values name value
    return first.map (name, ·) ++ (← pairs rest)

/-- A request as a JSON value: a string is a query, an object with a text as its `url` is a URL and
any other object holds parameters. -/
def ofJson : Json → Except CompileError Source
  | .string t => .ok (.query t)
  | .object members =>
    match members.lookup "url".toList with
    | some (.string t) => .ok (.url t)
    | _ => do return .params ⟨← pairs members⟩
  | json => .error (.unsupportedInput (.notARequest json.kind))

def ofAbsoluteUrl (t : Text) : Except UrlError Source := do
  let _ ← Url.query false t
  return .url t

def toParams : Source → Except CompileError Params
  | .query t => .ok (.parse t)
  | .params p => .ok p
  | .url t =>
    match Url.query true t with
    | .ok encoded => .ok ⟨Form.parse encoded⟩
    | .error cause => .error (.invalidUrl t cause)

end Source

end RequestSql
