import RequestSql.Error

namespace RequestSql

structure Expansion where
  table : Text
  selects : List Text := []
  deriving DecidableEq

namespace Expand

inductive Imbalance where
  | unopened
  | unclosed
  deriving DecidableEq

/-- The stretches between commas that stand outside parentheses, of which `depth` are open. -/
def splitFrom : Nat → Text → Except Imbalance (List Text)
  | 0, [] => .ok [[]]
  | _ + 1, [] => .error .unclosed
  | depth, c :: rest => do
    if c = ',' ∧ depth = 0 then return [] :: (← splitFrom depth rest)
    else
      let inner ←
        if c = '(' then .ok (depth + 1)
        else if c = ')' then
          match depth with
          | 0 => .error .unopened
          | depth + 1 => .ok depth
        else .ok depth
      match ← splitFrom inner rest with
      | [] => return [[c]]
      | piece :: pieces => return (c :: piece) :: pieces

def split (t : Text) : Except Imbalance (List Text) :=
  splitFrom 0 t

def parseFields (t : Text) : Except CompileError (List Text) :=
  (Text.splitOn ',' t).mapM fun field => do
    let field := Text.trim field
    Name.check (.directive .expand) field
    return field

/-- The columns that options of a table select. A column list is the only option there is. -/
def parseOptions (table : Text) : List Text → Except CompileError (List Text)
  | [] => .ok []
  | option :: rest =>
    match "$select=".toList.isPrefixOf? option with
    | none => .error (.invalidExpand (.unsupportedOption option table))
    | some fields => do
      let selects ← parseFields fields
      return selects ++ (← parseOptions table rest)

def splitOptions (t : Text) : List Text :=
  ((Text.splitOn ';' t).map Text.trim).filter fun option => !option.isEmpty

def parseEntry (entry : Text) : Except CompileError Expansion := do
  let entry := Text.trim entry
  if entry.isEmpty then .error (.invalidExpand .emptyEntry)
  else
    match Text.cut '(' entry with
    | none =>
      Name.check (.directive .expand) entry
      return { table := entry }
    | some (table, rest) =>
      let table := Text.trim table
      Name.check (.directive .expand) table
      if rest.getLast? = some ')' then
        return { table, selects := ← parseOptions table (splitOptions rest.dropLast) }
      else .error (.invalidExpand (.trailing entry))

def parse (value : Text) : Except CompileError (List Expansion) :=
  match split value with
  | .error .unopened => .error (.invalidExpand (.unopened value))
  | .error .unclosed => .error (.invalidExpand (.unclosed value))
  | .ok entries => entries.mapM parseEntry

end Expand

end RequestSql
