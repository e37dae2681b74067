import RequestSql.Directive.OrderBy
import RequestSql.Filter.Expr
import RequestSql.Scope
import RequestSql.Statement.Column

namespace RequestSql

structure Statement where
  columns : List Column
  table : Text
  aliasName : Option Text
  joins : List PlannedJoin
  filter : Option Filter
  groupBy : List Text
  orderBy : List SortKey
  limit : Option Nat
  offset : Option Nat
  deriving DecidableEq

namespace Statement

def listClause (word : Text) (entries : List Text) : Text :=
  if entries.isEmpty then [] else word ++ Text.commaList entries

def numberClause (word : Text) (n : Option Nat) : Text :=
  match n with
  | some n => word ++ Text.ofNat n
  | none => []

/-- The primary table, with its alias unless that is its name. -/
def tableText (s : Statement) : Text :=
  match s.aliasName with
  | some aliasName => if aliasName = s.table then s.table else s.table ++ ' ' :: aliasName
  | none => s.table

def head (s : Statement) : Text :=
  "SELECT ".toList ++ Text.commaList (s.columns.map Column.sql) ++ " FROM ".toList ++
    s.tableText ++ s.joins.flatMap fun j => ' ' :: j.sql

def condition (s : Statement) : Fragment :=
  match s.filter with
  | some f => .text " WHERE ".toList :: f.fragment
  | none => []

def tail (s : Statement) : Text :=
  listClause " GROUP BY ".toList s.groupBy ++
    listClause " ORDER BY ".toList (s.orderBy.map SortKey.sql) ++
    numberClause " LIMIT ".toList s.limit ++ numberClause " OFFSET ".toList s.offset

def fragment (s : Statement) : Fragment :=
  .text s.head :: s.condition ++ [.text s.tail]

def params (s : Statement) : List Value :=
  s.fragment.params

def sql (style : PlaceholderStyle) (s : Statement) : Text :=
  Text.collapse (s.fragment.render style)

end Statement

end RequestSql
