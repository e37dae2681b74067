import RequestSql.Error
import RequestSql.Text.Uppercase

namespace RequestSql

inductive AggregateFunction where
  | average | sum | count | min | max
  | other (name : Text)
  deriving DecidableEq

namespace AggregateFunction

def ofName (name : Text) : AggregateFunction :=
  if name = "average".toList then .average
  else if name = "sum".toList then .sum
  else if name = "count".toList then .count
  else if name = "min".toList then .min
  else if name = "max".toList then .max
  else .other (Text.upper name)

def sql : AggregateFunction → Text
  | .average => "AVG".toList
  | .sum => "SUM".toList
  | .count => "COUNT".toList
  | .min => "MIN".toList
  | .max => "MAX".toList
  | .other name => name

def isKnown : AggregateFunction → Bool
  | .other _ => false
  | _ => true

end AggregateFunction

inductive Operand where
  | rows
  | field (name : Text)
  deriving DecidableEq

def Operand.text : Operand → Text
  | .rows => ['*']
  | .field name => name

def Operand.map (f : Text → Text) : Operand → Operand
  | .rows => .rows
  | .field name => .field (f name)

structure Aggregate where
  operand : Operand
  function : AggregateFunction
  aliasName : Text
  deriving DecidableEq

def Aggregate.sqlOver (a : Aggregate) (column : Text) : Text :=
  a.function.sql ++ '(' :: column ++ ") AS ".toList ++ a.aliasName

def Aggregate.sql (a : Aggregate) : Text :=
  a.sqlOver a.operand.text

structure Grouping where
  fields : List Text
  aggregates : List Aggregate
  deriving DecidableEq

namespace Apply

def skipBlank (t : Text) : Text :=
  t.dropWhile Text.isBlank

def inside? (t : Text) : Option (Text × Text) :=
  match t.dropWhile fun c => c != '(' && c != ')' with
  | ')' :: rest => some (t.takeWhile fun c => c != '(' && c != ')', rest)
  | _ => none

/-- The fields and the aggregates of `groupby((fields), aggregate(aggregates))`. White space may
stand around the parts. -/
def shape? (t : Text) : Option (Text × Text) := do
  let t ← "groupby(".toList.isPrefixOf? (skipBlank t)
  let t ← ['('].isPrefixOf? (skipBlank t)
  let (fields, t) ← inside? t
  let t ← [','].isPrefixOf? (skipBlank t)
  let t ← "aggregate(".toList.isPrefixOf? (skipBlank t)
  let (aggregates, t) ← inside? t
  let t ← [')'].isPrefixOf? (skipBlank t)
  if (skipBlank t).isEmpty then some (fields, aggregates) else none

def parseField (field : Text) : Except CompileError Text := do
  let field := Text.trim field
  Name.check (.directive .apply) field
  return field

def parseOperand (entry field : Text) (function : AggregateFunction) :
    Except CompileError Operand := do
  if field = ['*'] then
    if function = .count then return .rows else .error (.invalidApply (.uncountable entry))
  else
    Name.check (.directive .apply) field
    return .field field

def checkAlias (aliasName : Text) : Except CompileError Unit :=
  if '.' ∈ aliasName then .error (.invalidIdentifier (.directive .apply) aliasName)
  else Name.check (.directive .apply) aliasName

/-- An aggregate, which consists of five words: `field with function as alias`. -/
def parseAggregate (entry : Text) : Except CompileError Aggregate := do
  let entry := Text.trim entry
  match Text.words entry with
  | [field, with', function, as', aliasName] =>
    if with' = "with".toList ∧ as' = "as".toList ∧ Name.isWord function then
      let function := AggregateFunction.ofName function
      let operand ← parseOperand entry field function
      checkAlias aliasName
      return { operand, function, aliasName }
    else .error (.invalidApply (.malformed entry))
  | _ => .error (.invalidApply (.malformed entry))

def parse (value : Text) : Except CompileError Grouping :=
  match shape? value with
  | none => .error (.invalidApply (.shape value))
  | some (fields, aggregates) => do
    let fields ← (Text.splitOn ',' fields).mapM parseField
    let aggregates ← (Text.splitOn ',' aggregates).mapM parseAggregate
    return { fields, aggregates }

end Apply

end RequestSql
