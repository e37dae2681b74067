import RequestSql.Json.Decode

namespace RequestSql

inductive Json where
  | null
  | bool (b : Bool)
  | number (n : Json.Number)
  | string (t : Text)
  | array (items : List Json)
  | object (members : List (Text × Json))

namespace Json

def maxNesting : Nat := 127

/-- Puts a member where its key belongs in increasing order, in place of one with that key. -/
def insertMember (key : Text) (value : Json) : List (Text × Json) → List (Text × Json)
  | [] => [(key, value)]
  | (k, v) :: rest =>
    if key = k then (key, value) :: rest
    else if key < k then (key, value) :: (k, v) :: rest
    else (k, v) :: insertMember key value rest

mutual

/-- The value of a document node, when arrays and objects may nest `room` deep. -/
def ofNode (room : Nat) : Node → Except Fault Json
  | .null => .ok .null
  | .bool b => .ok (.bool b)
  | .number n => do return .number (← n.value)
  | .string s => do return .string (← s.text)
  | .array items =>
    match room with
    | 0 => .error .malformed
    | room + 1 => do return .array (← ofItems room items)
  | .object members =>
    match room with
    | 0 => .error .malformed
    | room + 1 => do return .object (← ofMembers room [] members)
  | .word f => .error f
  | .broken f => .error f

def ofItems (room : Nat) : Items → Except Fault (List Json)
  | .closed => .ok []
  | .broken f => .error f
  | .cons item rest => do
    let a ← ofNode room item
    return a :: (← ofItems room rest)

/-- The members in increasing order of their keys; the last member of a key counts. -/
def ofMembers (room : Nat) (members : List (Text × Json)) :
    Members → Except Fault (List (Text × Json))
  | .closed => .ok members
  | .broken f => .error f
  | .unnamed found => .error found.keyFault
  | .cons key value rest => do
    let name ← key.text
    let a ← ofNode room value
    ofMembers room (insertMember name a members) rest

end

def parse (t : Text) : Except Fault Json :=
  decode (ofNode maxNesting) t

def hexDigit (n : Nat) : Char :=
  Nat.digitChar n

def escape (c : Char) : Text :=
  if c = '"' then "\\\"".toList
  else if c = '\\' then "\\\\".toList
  else if c = '\x08' then "\\b".toList
  else if c = '\x0c' then "\\f".toList
  else if c = '\n' then "\\n".toList
  else if c = '\r' then "\\r".toList
  else if c = '\t' then "\\t".toList
  else if c < ' ' then "\\u00".toList ++ [hexDigit (c.toNat / 16), hexDigit (c.toNat % 16)]
  else [c]

def quote (t : Text) : Text :=
  '"' :: t.flatMap escape ++ ['"']

mutual

def compact : Json → Text
  | .null => "null".toList
  | .bool true => "true".toList
  | .bool false => "false".toList
  | .number n => n.text
  | .string t => quote t
  | .array [] => "[]".toList
  | .array (item :: items) => '[' :: compact item ++ compactItems items ++ [']']
  | .object [] => "\x7b\x7d".toList
  | .object ((key, value) :: members) =>
    '\x7b' :: quote key ++ ':' :: compact value ++ compactMembers members ++ ['\x7d']

def compactItems : List Json → Text
  | [] => []
  | item :: items => ',' :: compact item ++ compactItems items

def compactMembers : List (Text × Json) → Text
  | [] => []
  | (key, value) :: members =>
    ',' :: quote key ++ ':' :: compact value ++ compactMembers members

end

def newLine (depth : Nat) : Text :=
  '\n' :: List.replicate (2 * depth) ' '

mutual

def prettyAt (depth : Nat) : Json → Text
  | .array (item :: items) =>
    '[' :: newLine (depth + 1) ++ prettyAt (depth + 1) item ++ prettyItems (depth + 1) items ++
      newLine depth ++ [']']
  | .object ((key, value) :: members) =>
    '\x7b' :: newLine (depth + 1) ++ quote key ++ ": ".toList ++ prettyAt (depth + 1) value ++
      prettyMembers (depth + 1) members ++ newLine depth ++ ['\x7d']
  | json => json.compact

def prettyItems (depth : Nat) : List Json → Text
  | [] => []
  | item :: items => ',' :: newLine depth ++ prettyAt depth item ++ prettyItems depth items

def prettyMembers (depth : Nat) : List (Text × Json) → Text
  | [] => []
  | (key, value) :: members =>
    ',' :: newLine depth ++ quote key ++ ": ".toList ++ prettyAt depth value ++
      prettyMembers depth members

end

def pretty (json : Json) : Text :=
  prettyAt 0 json

end Json

end RequestSql
