import RequestSql.Filter.Token
import RequestSql.Sql.Fragment

namespace RequestSql

inductive CompareOp where
  | eq | ne | gt | ge | lt | le
  deriving DecidableEq

namespace CompareOp

def ofKeyword? : Keyword → Option CompareOp
  | .eq => some .eq
  | .ne => some .ne
  | .gt => some .gt
  | .ge => some .ge
  | .lt => some .lt
  | .le => some .le
  | _ => none

def sql : CompareOp → Text
  | .eq => "=".toList
  | .ne => "<>".toList
  | .gt => ">".toList
  | .ge => ">=".toList
  | .lt => "<".toList
  | .le => "<=".toList

end CompareOp

inductive LogicalOp where
  | and | or
  deriving DecidableEq

def LogicalOp.sql : LogicalOp → Text
  | .and => "AND".toList
  | .or => "OR".toList

inductive Filter where
  | comparison (field : Text) (op : CompareOp) (value : Value)
  | logical (op : LogicalOp) (left right : Filter)
  | not (inner : Filter)
  deriving DecidableEq

namespace Filter

def fields : Filter → List Text
  | .comparison field _ _ => [field]
  | .logical _ left right => left.fields ++ right.fields
  | .not inner => inner.fields

def values : Filter → List Value
  | .comparison _ _ value => [value]
  | .logical _ left right => left.values ++ right.values
  | .not inner => inner.values

def paramCount : Filter → Nat
  | .comparison _ _ _ => 1
  | .logical _ left right => left.paramCount + right.paramCount
  | .not inner => inner.paramCount

def mapFieldsM {m : Type → Type} [Monad m] (f : Text → m Text) : Filter → m Filter
  | .comparison field op value => return .comparison (← f field) op value
  | .logical op left right => return .logical op (← left.mapFieldsM f) (← right.mapFieldsM f)
  | .not inner => return .not (← inner.mapFieldsM f)

def mapFields (f : Text → Text) : Filter → Filter
  | .comparison field op value => .comparison (f field) op value
  | .logical op left right => .logical op (left.mapFields f) (right.mapFields f)
  | .not inner => .not (inner.mapFields f)

/-- The filter in SQL. A connective stands in parentheses with its operands; a negation puts
parentheses around an operand that has none of its own. -/
def fragment : Filter → Fragment
  | .comparison field op value => [.text field, .text (' ' :: op.sql ++ [' ']), .parameter value]
  | .logical op left right =>
    .text ['('] :: left.fragment ++ .text (' ' :: op.sql ++ [' ']) :: right.fragment ++
      [.text [')']]
  | .not (.logical op left right) => .text "NOT ".toList :: (logical op left right).fragment
  | .not inner => .text "NOT (".toList :: inner.fragment ++ [.text [')']]

def build (e : Filter) : Text × List Value :=
  (e.fragment.render .mysql, e.fragment.params)

end Filter

end RequestSql
