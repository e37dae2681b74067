import RequestSql.Filter.Parser

namespace RequestSql

inductive Layer where
  | disjunction | conjunction | unary | primary
  deriving DecidableEq

inductive Operator : Keyword → CompareOp → Prop where
  | eq : Operator .eq .eq
  | ne : Operator .ne .ne
  | gt : Operator .gt .gt
  | ge : Operator .ge .ge
  | lt : Operator .lt .lt
  | le : Operator .le .le

theorem operator_iff {k : Keyword} {op : CompareOp} :
    CompareOp.ofKeyword? k = some op ↔ Operator k op := by
  constructor
  · intro h
    cases k <;> cases h <;> constructor
  · intro h
    cases h <;> rfl

def CompareOp.keyword : CompareOp → Keyword
  | .eq => .eq
  | .ne => .ne
  | .gt => .gt
  | .ge => .ge
  | .lt => .lt
  | .le => .le

theorem operator_keyword (op : CompareOp) : Operator op.keyword op := by
  cases op <;> constructor

def LogicalOp.keyword : LogicalOp → Keyword
  | .and => .and
  | .or => .or

inductive Literal : TokenKind → Value → Prop where
  | string (t : Text) : Literal (.string t) (.text t)
  | integer (n : Int64) : Literal (.integer n) (.int n)
  | float (x : Binary64) : Literal (.float x) (.float x)
  | true : Literal (.keyword .true) (.bool true)
  | false : Literal (.keyword .false) (.bool false)
  | null : Literal (.keyword .null) .null

theorem literal_iff {kind : TokenKind} {value : Value} :
    kind.literal? = some value ↔ Literal kind value := by
  constructor
  · intro h
    cases kind with
    | string t | integer n | float x =>
      cases h
      constructor
    | keyword k => cases k <;> cases h <;> constructor
    | _ => cases h
  · intro h
    cases h <;> rfl

def Value.kind : Value → TokenKind
  | .null => .keyword .null
  | .bool true => .keyword .true
  | .bool false => .keyword .false
  | .int n => .integer n
  | .float x => .float x
  | .text t => .string t

theorem literal_kind (v : Value) : Literal v.kind v := by
  cases v with
  | bool b => cases b <;> constructor
  | _ => constructor

/-- `Derives layer w e d n`: a layer of the grammar derives the kinds `w` with the filter `e`. At
the deepest point `d` negations and parentheses are open, and the derivation has `n` comparisons.
A chain of connectives is a shorter chain with one more operand, so it is folded to the left;
parentheses leave no trace in the filter. -/
inductive Derives : Layer → List TokenKind → Filter → Nat → Nat → Prop where
  | single {w e d n} (operand : Derives .conjunction w e d n) : Derives .disjunction w e d n
  | or {v w l r c d m n} (left : Derives .disjunction v l c m)
      (right : Derives .conjunction w r d n) :
      Derives .disjunction (v ++ .keyword .or :: w) (.logical .or l r) (max c d) (m + n)
  | operand {w e d n} (unary : Derives .unary w e d n) : Derives .conjunction w e d n
  | and {v w l r c d m n} (left : Derives .conjunction v l c m)
      (right : Derives .unary w r d n) :
      Derives .conjunction (v ++ .keyword .and :: w) (.logical .and l r) (max c d) (m + n)
  | plain {w e d n} (primary : Derives .primary w e d n) : Derives .unary w e d n
  | not {w e d n} (inner : Derives .unary w e d n) :
      Derives .unary (.keyword .not :: w) (.not e) (d + 1) n
  | parentheses {w e d n} (inner : Derives .disjunction w e d n) :
      Derives .primary (.leftParen :: w ++ [.rightParen]) e (d + 1) n
  | comparison {field k op kind value} (operator : Operator k op)
      (literal : Literal kind value) :
      Derives .primary [.identifier field, .keyword k, kind] (.comparison field op value) 0 1

namespace Derives

variable {layer : Layer} {w : List TokenKind} {e : Filter} {d n : Nat}

/-- Negations in front of an operand are one derivation, however many there are. -/
theorem negations (h : Derives .unary w e d n) (k : Nat) :
    Derives .unary (List.replicate k (.keyword .not) ++ w) (e.negate k) (d + k) n := by
  induction k generalizing w e d with
  | zero => exact h
  | succ k ih =>
    have hk := ih h.not
    rw [List.replicate_succ', List.append_assoc]
    rw [Nat.add_right_comm, Nat.add_assoc] at hk
    exact hk

/-- Two operands with a connective between them. -/
theorem joined (op : LogicalOp) {v : List TokenKind} {l r : Filter} {c m : Nat}
    (hl : Derives .unary v l c m) (hr : Derives .unary w r d n) :
    Derives .disjunction (v ++ .keyword op.keyword :: w) (.logical op l r) (max c d) (m + n) := by
  cases op with
  | and => exact .single (.and (.operand hl) hr)
  | or => exact .or (.single (.operand hl)) (.operand hr)

theorem operator_no_literal {k : Keyword} {op : CompareOp} (h : Operator k op) :
    (TokenKind.keyword k).literal? = none := by
  cases h <;> rfl

/-- The literals among the tokens are the values of the filter, in the same order. -/
theorem literals_eq (h : Derives layer w e d n) :
    w.filterMap TokenKind.literal? = e.values := by
  induction h with
  | single _ ih | operand _ ih | plain _ ih => exact ih
  | or _ _ ihl ihr | and _ _ ihl ihr =>
    rw [List.filterMap_append, List.filterMap_cons_none rfl, ihl, ihr, Filter.values]
  | not _ ih => rw [List.filterMap_cons_none rfl, ih, Filter.values]
  | parentheses _ ih =>
    rw [List.cons_append, List.filterMap_cons_none rfl, List.filterMap_append, ih]
    exact List.append_nil _
  | comparison operator literal =>
    rw [List.filterMap_cons_none rfl, List.filterMap_cons_none (operator_no_literal operator),
      List.filterMap_cons_some (literal_iff.mpr literal), List.filterMap_nil, Filter.values]

/-- Every field of the filter is a name among the tokens. -/
theorem field_mem (h : Derives layer w e d n) {field : Text} (hf : field ∈ e.fields) :
    .identifier field ∈ w := by
  induction h with
  | single _ ih | operand _ ih | plain _ ih => exact ih hf
  | or _ _ ihl ihr | and _ _ ihl ihr =>
    rcases List.mem_append.mp hf with hl | hr
    · exact List.mem_append_left _ (ihl hl)
    · exact List.mem_append_right _ (List.mem_cons_of_mem _ (ihr hr))
  | not _ ih => exact List.mem_cons_of_mem _ (ih hf)
  | parentheses _ ih => exact List.mem_append_left _ (List.mem_cons_of_mem _ (ih hf))
  | comparison _ _ =>
    obtain rfl := List.mem_singleton.mp hf
    exact List.mem_cons_self

/-- No filter is derived from what the lexer could not read. -/
theorem error_not_mem (h : Derives layer w e d n) (x : LexError) : .error x ∉ w := by
  induction h with
  | single _ ih | operand _ ih | plain _ ih => exact ih
  | or _ _ ihl ihr | and _ _ ihl ihr => simp [ihl, ihr]
  | not _ ih | parentheses _ ih => simp [ih]
  | comparison _ literal => cases literal <;> simp

end Derives

/-- A filter that token kinds spell, with at most 128 negations and parentheses open at a time and
at most 1024 comparisons. -/
def Spells (w : List TokenKind) (e : Filter) : Prop :=
  ∃ d n, Derives .disjunction w e d n ∧ d ≤ 128 ∧ n ≤ 1024

end RequestSql
