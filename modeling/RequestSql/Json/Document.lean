import RequestSql.Json.Number

namespace RequestSql.Json

/-- A unit of a string: a character, or one half of a surrogate pair. -/
inductive StringUnit where
  | char (c : Char)
  | surrogate (code : Nat)
  deriving DecidableEq

structure StringBody where
  units : List StringUnit
  fault : Option Fault
  deriving DecidableEq

mutual

inductive Node where
  | null
  | bool (b : Bool)
  | number (n : NumberText)
  | string (s : StringBody)
  | array (items : Items)
  | object (members : Members)
  | word (f : Fault)
  | broken (f : Fault)

inductive Items where
  | closed
  | broken (f : Fault)
  | cons (item : Node) (rest : Items)

inductive Members where
  | closed
  | broken (f : Fault)
  | unnamed (found : Node)
  | cons (key : StringBody) (value : Node) (rest : Members)

end

def isSpace (c : Char) : Bool :=
  c == ' ' || c == '\n' || c == '\t' || c == '\r'

def skipSpace (t : Text) : Text :=
  t.dropWhile isSpace

def hexValue? (c : Char) : Option Nat :=
  if c.isDigit then some (c.toNat - '0'.toNat)
  else if 'a' ≤ c ∧ c ≤ 'f' then some (c.toNat - 'a'.toNat + 10)
  else if 'A' ≤ c ∧ c ≤ 'F' then some (c.toNat - 'A'.toNat + 10)
  else none

def hexCode? (a b c d : Char) : Option Nat := do
  return ((← hexValue? a) * 16 + (← hexValue? b)) * 256 + (← hexValue? c) * 16 + (← hexValue? d)

def escaped? : Char → Option Char
  | '"' => some '"'
  | '\\' => some '\\'
  | '/' => some '/'
  | 'b' => some '\x08'
  | 'f' => some '\x0c'
  | 'n' => some '\n'
  | 'r' => some '\r'
  | 't' => some '\t'
  | _ => none

def unitOfCode (code : Nat) : StringUnit :=
  if 0xD800 ≤ code ∧ code ≤ 0xDFFF then .surrogate code else .char (Char.ofNat code)

def pushUnit (u : StringUnit) (scanned : StringBody × Text) : StringBody × Text :=
  ({ scanned.1 with units := u :: scanned.1.units }, scanned.2)

/-- A string after its opening quote. An escape by code needs four bytes after its letter. -/
def scanString : Text → StringBody × Text
  | [] => (⟨[], some .truncated⟩, [])
  | '"' :: rest => (⟨[], none⟩, rest)
  | '\\' :: 'u' :: a :: b :: c :: d :: rest =>
    match hexCode? a b c d with
    | some code => pushUnit (unitOfCode code) (scanString rest)
    | none => (⟨[], some .malformed⟩, rest)
  | '\\' :: 'u' :: rest =>
    (⟨[], some (if Text.byteSize rest < 4 then .truncated else .malformed)⟩, [])
  | '\\' :: c :: rest =>
    match escaped? c with
    | some e => pushUnit (.char e) (scanString rest)
    | none => (⟨[], some .malformed⟩, rest)
  | ['\\'] => (⟨[], some .truncated⟩, [])
  | c :: rest =>
    if c < ' ' then (⟨[], some .malformed⟩, rest) else pushUnit (.char c) (scanString rest)

def scanWord (node : Node) : Text → Text → Node × Text
  | [], rest => (node, rest)
  | _ :: _, [] => (.word .truncated, [])
  | c :: word, d :: rest => if c = d then scanWord node word rest else (.word .malformed, rest)

mutual

/-- A value, with the text after it. The fuel bounds the number of steps. -/
def scanNode : Nat → Text → Node × Text
  | 0, _ => (.broken .malformed, [])
  | fuel + 1, t =>
    match skipSpace t with
    | [] => (.broken .truncated, [])
    | 'n' :: rest => scanWord .null "ull".toList rest
    | 't' :: rest => scanWord (.bool true) "rue".toList rest
    | 'f' :: rest => scanWord (.bool false) "alse".toList rest
    | '"' :: rest =>
      let (s, rest) := scanString rest
      (.string s, rest)
    | '-' :: rest =>
      let (n, rest) := NumberText.scan true rest
      (.number n, rest)
    | '[' :: rest =>
      match skipSpace rest with
      | ']' :: rest => (.array .closed, rest)
      | rest =>
        let (items, rest) := scanItems fuel rest
        (.array items, rest)
    | '\x7b' :: rest =>
      match skipSpace rest with
      | '\x7d' :: rest => (.object .closed, rest)
      | rest =>
        let (members, rest) := scanMembers fuel rest
        (.object members, rest)
    | c :: rest =>
      if c.isDigit then
        let (n, rest) := NumberText.scan false (c :: rest)
        (.number n, rest)
      else (.broken .malformed, rest)

def scanItems : Nat → Text → Items × Text
  | 0, _ => (.broken .malformed, [])
  | fuel + 1, t =>
    let (item, rest) := scanNode fuel t
    match skipSpace rest with
    | ',' :: rest =>
      let (items, rest) := scanItems fuel rest
      (.cons item items, rest)
    | ']' :: rest => (.cons item .closed, rest)
    | rest => (.cons item (.broken (NumberText.faultAt rest)), rest)

def scanMembers : Nat → Text → Members × Text
  | 0, _ => (.broken .malformed, [])
  | fuel + 1, t =>
    match skipSpace t with
    | '"' :: rest =>
      let (key, rest) := scanString rest
      match skipSpace rest with
      | ':' :: rest =>
        let (value, rest) := scanNode fuel rest
        match skipSpace rest with
        | ',' :: rest =>
          let (members, rest) := scanMembers fuel rest
          (.cons key value members, rest)
        | '\x7d' :: rest => (.cons key value .closed, rest)
        | rest => (.cons key value (.broken (NumberText.faultAt rest)), rest)
      | rest => (.cons key (.broken (NumberText.faultAt rest)) .closed, rest)
    | rest =>
      let (found, rest) := scanNode fuel rest
      (.unnamed found, rest)

end

/-- The value of a text and what follows it. Every step but one in two takes a character, so the
fuel suffices. -/
def scanDocument (t : Text) : Node × Text :=
  scanNode (2 * t.length + 2) t

end RequestSql.Json
