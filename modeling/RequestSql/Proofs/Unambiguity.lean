import RequestSql.Proofs.Grammar

namespace RequestSql

namespace Precedence

mutual

/-- The filter of the kinds where an operand comes next, within a level and those around it. There
are no limits here. -/
def operand (outer : List Level) (l : Level) : List TokenKind → Option Filter
  | .keyword .not :: w => operand outer { l with negations := l.negations + 1 } w
  | .leftParen :: w => operand (l :: outer) {} w
  | .identifier field :: .keyword k :: kind :: w =>
    match CompareOp.ofKeyword? k, kind.literal? with
    | some op, some value =>
      connective outer l.disjunct
        (l.conjoin ((Filter.comparison field op value).negate l.negations)) w
    | _, _ => none
  | _ => none

def connective (outer : List Level) (disjunct : Option Filter) (e : Filter) :
    List TokenKind → Option Filter
  | .keyword .and :: w => operand outer { disjunct, conjunct := some e } w
  | .keyword .or :: w => operand outer { disjunct := some (Level.close { disjunct } e) } w
  | .rightParen :: w =>
    match outer with
    | l :: outer =>
      connective outer l.disjunct
        (l.conjoin ((Level.close { disjunct } e).negate l.negations)) w
    | [] => none
  | [] => if outer.isEmpty then some (Level.close { disjunct } e) else none
  | _ => none

end

/-- The reader passes over the kinds of a layer, whatever comes after them, and joins the filter of
the layer to the operands before it. -/
def Passes : Layer → List TokenKind → Filter → Prop
  | .disjunction, w, e => ∃ disjunct x, Level.close { disjunct } x = e ∧
      ∀ outer u, operand outer {} (w ++ u) = connective outer disjunct x u
  | .conjunction, w, e => ∀ disjunct outer u,
      operand outer { disjunct } (w ++ u) = connective outer disjunct e u
  | .unary, w, e | .primary, w, e => ∀ l outer u,
      operand outer l (w ++ u) =
        connective outer l.disjunct (l.conjoin (e.negate l.negations)) u

end Precedence

open Precedence in
theorem Derives.passes {layer : Layer} {w : List TokenKind} {e : Filter} {d n : Nat}
    (h : Derives layer w e d n) : Passes layer w e := by
  induction h with
  | single _ ih => exact ⟨none, _, rfl, fun outer u => ih none outer u⟩
  | @or v w l r _ _ _ _ _ _ ihl ihr =>
    obtain ⟨disjunct, x, rfl, hleft⟩ := ihl
    refine ⟨some (Level.close { disjunct } x), r, rfl, fun outer u => ?_⟩
    rw [List.append_assoc, hleft, List.cons_append, connective, ihr]
  | operand _ ih => exact fun disjunct outer u => ih { disjunct } outer u
  | @and v w l r _ _ _ _ _ _ ihl ihr =>
    intro disjunct outer u
    rw [List.append_assoc, ihl, List.cons_append, connective, ihr]
    rfl
  | plain _ ih => exact ih
  | not _ ih =>
    intro l outer u
    rw [List.cons_append, Precedence.operand, ih]
    rfl
  | parentheses _ ih =>
    obtain ⟨disjunct, x, rfl, hinner⟩ := ih
    intro l outer u
    rw [List.cons_append, List.cons_append, Precedence.operand, List.append_assoc, hinner,
      List.singleton_append, connective]
  | comparison operator literal =>
    intro l outer u
    simp only [List.cons_append, List.nil_append, Precedence.operand, operator_iff.mpr operator,
      literal_iff.mpr literal]

/-- The grammar derives at most one filter. -/
theorem Derives.unique {w : List TokenKind} {e e' : Filter} {d d' n n' : Nat}
    (h : Derives .disjunction w e d n) (h' : Derives .disjunction w e' d' n') : e = e' := by
  obtain ⟨disjunct, x, rfl, hx⟩ := h.passes
  obtain ⟨disjunct', x', rfl, hx'⟩ := h'.passes
  have hread := (hx [] []).symm.trans (hx' [] [])
  exact Option.some.inj hread

end RequestSql
