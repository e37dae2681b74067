import RequestSql.Json.Document

namespace RequestSql.Json

/-- The text of a string. Halves of surrogate pairs have to stand in pairs. -/
def unitsText : List StringUnit → Option Fault → Except Fault Text
  | [], none => .ok []
  | [], some f => .error f
  | .char c :: rest, fault => do return c :: (← unitsText rest fault)
  | .surrogate high :: .surrogate low :: rest, fault =>
    if high < 0xDC00 ∧ 0xDC00 ≤ low then do
      return Char.ofNat (0x10000 + (high - 0xD800) * 0x400 + (low - 0xDC00)) ::
        (← unitsText rest fault)
    else .error .malformed
  | [.surrogate high], fault =>
    .error (if high < 0xDC00 then fault.getD .malformed else .malformed)
  | .surrogate _ :: .char _ :: _, _ => .error .malformed

def StringBody.text (s : StringBody) : Except Fault Text :=
  unitsText s.units s.fault

namespace Node

/-- What is wrong with a value that is not of the kind wanted. A scalar that is itself faulty
shows its own fault. -/
def mismatch : Node → Fault
  | .number n =>
    match n.value with
    | .ok _ => .mistyped
    | .error f => f
  | .string s =>
    match s.text with
    | .ok _ => .mistyped
    | .error f => f
  | .word f => f
  | .broken f => f
  | _ => .mistyped

def keyFault : Node → Fault
  | .broken f => f
  | _ => .malformed

mutual

/-- Passes over a value that nobody wants. Only its form matters. -/
def skip : Node → Except Fault Unit
  | .null => .ok ()
  | .bool _ => .ok ()
  | .number n => if n.fault.isSome then .error .malformed else .ok ()
  | .string s =>
    match s.fault with
    | some f => .error f
    | none => .ok ()
  | .array items => skipItems items
  | .object members => skipMembers members
  | .word f => .error f
  | .broken f => .error f

def skipItems : Items → Except Fault Unit
  | .closed => .ok ()
  | .broken f => .error f
  | .cons item rest => do
    item.skip
    skipItems rest

def skipMembers : Members → Except Fault Unit
  | .closed => .ok ()
  | .broken f => .error f
  | .unnamed found => .error found.keyFault
  | .cons key value rest =>
    match key.fault with
    | some f => .error f
    | none => do
      value.skip
      skipMembers rest

end

def text : Node → Except Fault Text
  | .string s => s.text
  | node => .error node.mismatch

def optional {α : Type} (read : Node → Except Fault α) : Node → Except Fault (Option α)
  | .null => .ok none
  | node => do return some (← read node)

end Node

def Items.toList {α : Type} (read : Node → Except Fault α) : Items → Except Fault (List α)
  | .closed => .ok []
  | .broken f => .error f
  | .cons item rest => do
    let a ← read item
    return a :: (← rest.toList read)

def Node.list {α : Type} (read : Node → Except Fault α) : Node → Except Fault (List α)
  | .array items => items.toList read
  | node => .error node.mismatch

def Members.toList {α : Type} (read : Node → Except Fault α) :
    Members → Except Fault (List (Text × α))
  | .closed => .ok []
  | .broken f => .error f
  | .unnamed found => .error found.keyFault
  | .cons key value rest => do
    let name ← key.text
    let a ← read value
    return (name, a) :: (← rest.toList read)

def Node.members {α : Type} (read : Node → Except Fault α) :
    Node → Except Fault (List (Text × α))
  | .object members => members.toList read
  | node => .error node.mismatch

structure RecordField (α : Type) where
  name : Text
  read : Node → α → Except Fault α

/-- Reads a record from members. Members with other keys are passed over, and a key may not stand
twice. Gives the record and the keys that were read. -/
def Members.record {α : Type} (fields : List (RecordField α)) :
    List Text → α → Members → Except Fault (α × List Text)
  | seen, record, .closed => .ok (record, seen)
  | _, _, .broken f => .error f
  | _, _, .unnamed found => .error found.keyFault
  | seen, record, .cons key value rest => do
    let name ← key.text
    match fields.find? fun field => field.name == name with
    | none =>
      value.skip
      rest.record fields seen record
    | some field =>
      if seen.contains name then .error .mistyped
      else
        rest.record fields (name :: seen) (← field.read value record)

def Items.record {α : Type} :
    List (RecordField α) → List Text → α → Items → Except Fault (α × List Text)
  | _, seen, record, .closed => .ok (record, seen)
  | _, _, _, .broken f => .error f
  | [], _, _, .cons _ _ => .error .malformed
  | field :: fields, seen, record, .cons item rest => do
    rest.record fields (field.name :: seen) (← field.read item record)

/-- Reads a record from an object, or from an array with the fields in order. -/
def Node.record {α : Type} (fields : List (RecordField α)) (start : α) :
    Node → Except Fault (α × List Text)
  | .object members => members.record fields [] start
  | .array items => items.record fields [] start
  | node => .error node.mismatch

def decode {α : Type} (read : Node → Except Fault α) (t : Text) : Except Fault α := do
  let (node, rest) := scanDocument t
  let a ← read node
  if (skipSpace rest).isEmpty then return a else .error .malformed

end RequestSql.Json
