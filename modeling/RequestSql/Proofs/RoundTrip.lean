import RequestSql.Proofs.Recognition
import RequestSql.Proofs.Scanning

namespace RequestSql

open Text (Breaks)

def Value.isFloat : Value → Bool
  | .float _ => true
  | _ => false

namespace Filter

def print : Filter → Text
  | .comparison field op value => field ++ ' ' :: op.keyword.text ++ ' ' :: value.inline
  | .logical op left right =>
    '(' :: left.print ++ ' ' :: op.keyword.text ++ ' ' :: right.print ++ [')']
  | .not inner => "not ".toList ++ inner.print

/-- The most connectives and negations on the way to a comparison. -/
def nesting : Filter → Nat
  | .comparison _ _ _ => 0
  | .logical _ left right => max left.nesting right.nesting + 1
  | .not inner => inner.nesting + 1

def spelling : Filter → List TokenKind
  | .comparison field op value => [.identifier field, .keyword op.keyword, value.kind]
  | .logical op left right =>
    .leftParen :: (left.spelling ++ .keyword op.keyword :: right.spelling) ++ [.rightParen]
  | .not inner => .keyword .not :: inner.spelling

/-- A filter that can be printed: its fields are names, and no value is a floating-point number. -/
structure Printable (e : Filter) : Prop where
  fields : ∀ field ∈ e.fields, isFieldName field = true
  values : ∀ value ∈ e.values, value.isFloat = false

theorem Printable.operands {op : LogicalOp} {left right : Filter}
    (h : (logical op left right).Printable) : left.Printable ∧ right.Printable where
  left :=
    ⟨fun f hf => h.fields f (List.mem_append_left _ hf),
      fun v hv => h.values v (List.mem_append_left _ hv)⟩
  right :=
    ⟨fun f hf => h.fields f (List.mem_append_right _ hf),
      fun v hv => h.values v (List.mem_append_right _ hv)⟩

theorem Printable.inner {inner : Filter} (h : (not inner).Printable) : inner.Printable :=
  ⟨h.fields, h.values⟩

end Filter

section Scanning

variable {rest : Text}

theorem CompareOp.ofText_keyword (op : CompareOp) :
    Keyword.ofText? op.keyword.text = some op.keyword := by
  cases op <;> decide

theorem LogicalOp.ofText_keyword (op : LogicalOp) :
    Keyword.ofText? op.keyword.text = some op.keyword := by
  cases op <;> decide

/-- A value is written as the literal that stands for it, unless it is a floating-point number. -/
theorem Value.scans_inline {v : Value} (hv : v.isFloat = false) (hrest : Breaks rest) :
    Lexer.Scans v.inline v.kind rest := by
  cases v with
  | null => exact Lexer.scans_keyword (by decide) hrest
  | bool b =>
    cases b with
    | true => exact Lexer.scans_keyword (by decide) hrest
    | false => exact Lexer.scans_keyword (by decide) hrest
  | int n => exact Lexer.scans_integer n hrest
  | float x => cases hv
  | text t => exact Lexer.scans_quoted t hrest

/-- A comparison is scanned as its field, its operator and the token of its literal. -/
theorem Filter.kinds_comparison {field w : Text} {kind : TokenKind}
    (hfield : isFieldName field = true) (op : CompareOp) (hw : Lexer.Scans w kind rest) :
    Lexer.kinds (field ++ ' ' :: op.keyword.text ++ ' ' :: w ++ rest) =
      .identifier field :: .keyword op.keyword :: kind :: Lexer.kinds rest := by
  simp only [List.append_assoc, List.cons_append]
  rw [(Lexer.scans_fieldName hfield (Lexer.breaks_space _)).kinds_append, Lexer.kinds_space,
    (Lexer.scans_keyword op.ofText_keyword (Lexer.breaks_space _)).kinds_append,
    Lexer.kinds_space, hw.kinds_append]

theorem Filter.kinds_print (e : Filter) (he : e.Printable) (hrest : Breaks rest) :
    Lexer.kinds (e.print ++ rest) = e.spelling ++ Lexer.kinds rest := by
  induction e generalizing rest with
  | comparison field op value =>
    have hfield := he.fields field (List.mem_singleton.mpr rfl)
    have hvalue := he.values value (List.mem_singleton.mpr rfl)
    exact kinds_comparison hfield op (Value.scans_inline hvalue hrest)
  | logical op left right ihl ihr =>
    obtain ⟨hleft, hright⟩ := he.operands
    simp only [print, List.append_assoc, List.cons_append, List.nil_append]
    rw [Lexer.kinds_leftParen, ihl hleft (Lexer.breaks_space _), Lexer.kinds_space,
      (Lexer.scans_keyword op.ofText_keyword (Lexer.breaks_space _)).kinds_append,
      Lexer.kinds_space, ihr hright (Lexer.breaks_cons (by decide)), Lexer.kinds_rightParen]
    simp only [spelling, List.cons_append, List.append_assoc, List.nil_append]
  | not inner ih =>
    have hnot : Lexer.Scans "not".toList (.keyword .not) (' ' :: (inner.print ++ rest)) :=
      Lexer.scans_keyword (by decide) (Lexer.breaks_space _)
    rw [print, List.append_assoc]
    calc Lexer.kinds ("not".toList ++ ' ' :: (inner.print ++ rest))
      _ = .keyword .not :: Lexer.kinds (' ' :: (inner.print ++ rest)) := hnot.kinds_append
      _ = .keyword .not :: (inner.spelling ++ Lexer.kinds rest) := by
        rw [Lexer.kinds_space, ih he.inner hrest]

end Scanning

namespace Filter

/-- Each connective and each negation opens one level of the grammar. -/
theorem derives_spelling (e : Filter) : Derives .unary e.spelling e e.nesting e.paramCount := by
  induction e with
  | comparison field op value => exact .plain (.comparison (operator_keyword op) (literal_kind value))
  | logical op left right ihl ihr => exact .plain (.parentheses (ihl.joined op ihr))
  | not inner ih => exact ih.not

/-- A comparison by itself is parsed with the value of its literal. -/
theorem parse_comparison {field w : Text} {kind : TokenKind} {value : Value}
    (hfield : isFieldName field = true) (op : CompareOp) (hw : Lexer.Scans w kind [])
    (hvalue : Literal kind value) :
    parse (field ++ ' ' :: op.keyword.text ++ ' ' :: w) = .ok (.comparison field op value) := by
  have hkinds := kinds_comparison hfield op hw
  rw [List.append_nil] at hkinds
  rw [parse_eq_ok, ← Lexer.kinds, hkinds]
  exact ⟨0, 1, .single (.operand (.plain (.comparison (operator_keyword op) hvalue))), by decide,
    by decide⟩

/-- A printed filter is parsed as the filter that was printed. -/
theorem parse_print (e : Filter) (he : e.Printable) (hcount : e.paramCount ≤ 1024)
    (hnesting : e.nesting ≤ 128) : parse e.print = .ok e := by
  have hkinds : Lexer.kinds e.print = e.spelling := by
    have hend : Breaks [] := fun c hc => by cases hc
    rw [← List.append_nil e.print, e.kinds_print he hend]
    exact List.append_nil _
  rw [parse_eq_ok, ← Lexer.kinds, hkinds]
  exact ⟨e.nesting, e.paramCount, .single (.operand e.derives_spelling), hnesting, hcount⟩

def outsized : Filter :=
  .not (.not (.logical .or (.comparison "größe.not".toList .ne (.text "it's".toList))
    (.comparison "_notes".toList .le (.int (-9223372036854775808)))))

theorem parse_print_outsized :
    outsized.print = "not not (größe.not ne 'it''s' or _notes le -9223372036854775808)".toList ∧
      parse outsized.print = .ok outsized :=
  ⟨by decide, parse_print outsized ⟨by decide, by decide⟩ (by decide) (by decide)⟩

end Filter

end RequestSql
