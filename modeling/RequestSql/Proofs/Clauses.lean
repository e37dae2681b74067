import RequestSql.Proofs.Placeholders

namespace RequestSql

/-- A table as a statement introduces it: its name, and what it is called where that is another. -/
def introduction (table called : Text) : Text :=
  if called = table then table else table ++ ' ' :: called

/-- The clauses of a statement, each as it is written. -/
structure ClauseTexts where
  columns : List Text
  table : Text
  joins : List Text
  condition : Option Text
  groupBy : List Text
  orderBy : List Text
  limit : Option Nat
  offset : Option Nat

namespace ClauseTexts

def optional (word : Text) : Option Text → Text
  | some t => word ++ t
  | none => []

def entries? (entries : List Text) : Option Text :=
  if entries = [] then none else some ([',', ' '].intercalate entries)

def text (c : ClauseTexts) : Text :=
  "SELECT ".toList ++ [',', ' '].intercalate c.columns ++ " FROM ".toList ++ c.table ++
    c.joins.flatMap (' ' :: ·) ++ optional " WHERE ".toList c.condition ++
    optional " GROUP BY ".toList (entries? c.groupBy) ++
    optional " ORDER BY ".toList (entries? c.orderBy) ++
    optional " LIMIT ".toList (c.limit.map (Nat.toDigits 10)) ++
    optional " OFFSET ".toList (c.offset.map (Nat.toDigits 10))

/-- The clauses one after the other, with a single space between any two words. -/
def sql (c : ClauseTexts) : Text :=
  [' '].intercalate ((c.text.splitOnP Text.isBlank).filter fun word => !word.isEmpty)

end ClauseTexts

inductive JoinType.Word : JoinType → Text → Prop where
  | left : Word .left "LEFT".toList
  | inner : Word .inner "INNER".toList
  | right : Word .right "RIGHT".toList
  | full : Word .full "FULL".toList
  | cross : Word .cross "CROSS".toList

inductive PlannedJoin.Written (j : PlannedJoin) : Text → Prop where
  | on {word : Text} (hw : j.spec.kind.Word word) (hk : j.spec.kind ≠ .cross) :
      Written j (word ++ " JOIN ".toList ++ introduction j.table j.aliasName ++
        " ON ".toList ++ j.spec.predicate)
  | cross {word : Text} (hw : j.spec.kind.Word word) (hk : j.spec.kind = .cross) :
      Written j (word ++ " JOIN ".toList ++ introduction j.table j.aliasName)

section Names

-- A name `f` of a request may stand as `g` in the SQL where `R f g`.
variable (R : Text → Text → Prop)

inductive Column.Written : Column → Text → Prop where
  | all : Written .all ['*']
  | field {f g : Text} (h : R f g) : Written (.field f) g
  | rows {function : AggregateFunction} {aliasName : Text} :
      Written (.aggregate ⟨.rows, function, aliasName⟩)
        (function.sql ++ "(*) AS ".toList ++ aliasName)
  | aggregate {f g : Text} {function : AggregateFunction} {aliasName : Text} (h : R f g) :
      Written (.aggregate ⟨.field f, function, aliasName⟩)
        (function.sql ++ '(' :: g ++ ") AS ".toList ++ aliasName)

inductive SortKey.Written : SortKey → Text → Prop where
  | plain {f g : Text} (h : R f g) : Written ⟨f, none⟩ g
  | directed {f g direction : Text} (h : R f g) :
      Written ⟨f, some direction⟩ (g ++ ' ' :: direction)

/-- A filter as a condition whose placeholders are counted from a number on. -/
inductive Filter.Written (style : PlaceholderStyle) : Nat → Filter → Text → Prop where
  | comparison {n : Nat} {f g : Text} {op : CompareOp} {value : Value} (h : R f g) :
      Written style n (.comparison f op value) (g ++ ' ' :: op.sql ++ ' ' :: style.placeholder n)
  | logical {n : Nat} {op : LogicalOp} {left right : Filter} {t u : Text}
      (hl : Written style n left t) (hr : Written style (n + left.paramCount) right u) :
      Written style n (.logical op left right) ('(' :: t ++ ' ' :: op.sql ++ ' ' :: u ++ [')'])
  | notLogical {n : Nat} {op : LogicalOp} {left right : Filter} {t : Text}
      (h : Written style n (.logical op left right) t) :
      Written style n (.not (.logical op left right)) ("NOT ".toList ++ t)
  | not {n : Nat} {e : Filter} {t : Text} (bare : ∀ op left right, e ≠ .logical op left right)
      (h : Written style n e t) : Written style n (.not e) ("NOT (".toList ++ t ++ [')'])

end Names

def Column.field? : Column → Option Text
  | .all => none
  | .field name => some name
  | .aggregate a =>
    match a.operand with
    | .rows => none
    | .field name => some name

section Writing

variable {R : Text → Text → Prop} {f : Text → Text}

theorem forall₂_map_of_mem {α β : Type} {R : α → β → Prop} {f : α → β} {xs : List α}
    (h : ∀ x ∈ xs, R x (f x)) : List.Forall₂ R xs (xs.map f) := by
  rw [List.forall₂_map_right_iff, List.forall₂_same]
  exact h

theorem introduction_eq (table called : Text) :
    introduction table called = table ++ if called = table then [] else ' ' :: called := by
  unfold introduction
  split
  · exact (List.append_nil table).symm
  · rfl

theorem JoinType.word_iff {kind : JoinType} {word : Text} : kind.Word word ↔ word = kind.sql := by
  constructor
  · intro h
    cases h <;> rfl
  · rintro rfl
    cases kind <;> constructor

theorem PlannedJoin.written_iff {j : PlannedJoin} {t : Text} : j.Written t ↔ t = j.sql := by
  have hsql : j.sql = j.spec.kind.sql ++ " JOIN ".toList ++ introduction j.table j.aliasName ++
      if j.spec.kind = .cross then [] else " ON ".toList ++ j.spec.predicate := by
    rw [sql, List.append_assoc _ j.table, ← introduction_eq]
  constructor
  · intro h
    cases h with
    | on hw hk => rw [JoinType.word_iff.mp hw, hsql, if_neg hk, ← List.append_assoc]
    | cross hw hk => rw [JoinType.word_iff.mp hw, hsql, if_pos hk, List.append_nil]
  · rintro rfl
    by_cases hk : j.spec.kind = .cross
    · rw [hsql, if_pos hk, List.append_nil]
      exact .cross (JoinType.word_iff.mpr rfl) hk
    · rw [hsql, if_neg hk, ← List.append_assoc]
      exact .on (JoinType.word_iff.mpr rfl) hk

theorem PlannedJoin.forall_written_iff {joins : List PlannedJoin} {texts : List Text} :
    List.Forall₂ PlannedJoin.Written joins texts ↔ texts = joins.map PlannedJoin.sql := by
  constructor
  · intro h
    induction h with
    | nil => rfl
    | cons hj _ ih => rw [List.map_cons, written_iff.mp hj, ih]
  · rintro rfl
    exact forall₂_map_of_mem fun j _ => written_iff.mpr rfl

theorem Column.written_map {c : Column} (h : ∀ field ∈ c.field?, R field (f field)) :
    c.Written R (c.map f).sql := by
  cases c with
  | all => exact .all
  | field name => exact .field (h name rfl)
  | aggregate a =>
    obtain ⟨operand, function, aliasName⟩ := a
    cases operand with
    | rows =>
      have hwritten : Column.Written R (.aggregate ⟨.rows, function, aliasName⟩) _ := .rows
      simpa [map, sql, Aggregate.sql, Aggregate.sqlOver, Operand.map, Operand.text] using hwritten
    | field name => exact .aggregate (h name rfl)

theorem SortKey.written_mapField {k : SortKey} (h : R k.field (f k.field)) :
    k.Written R (k.mapField f).sql := by
  obtain ⟨field, direction⟩ := k
  cases direction with
  | none => exact .plain h
  | some direction => exact .directed h

theorem Fragment.renderFrom_append {style : PlaceholderStyle} (f g : Fragment) (n : Nat) :
    renderFrom style n (f ++ g) =
      renderFrom style n f ++ renderFrom style (n + f.params.length) g := by
  induction f generalizing n with
  | nil => rfl
  | cons piece f ih =>
    cases piece with
    | text t => simp [renderFrom, params, ih]
    | parameter v => simp [renderFrom, params, ih, Nat.add_assoc, Nat.add_comm]

open Fragment in
theorem Filter.written_mapFields {style : PlaceholderStyle} {e : Filter}
    (h : ∀ field ∈ e.fields, R field (f field)) (n : Nat) :
    e.Written R style n (renderFrom style n (e.mapFields f).fragment) := by
  induction e generalizing n with
  | comparison field op value =>
    have hwritten : Filter.Written R style n (.comparison field op value) _ :=
      .comparison (h field List.mem_cons_self)
    simpa [mapFields, fragment, renderFrom] using hwritten
  | logical op left right ihl ihr =>
    obtain ⟨hl, hr⟩ := List.forall_mem_append.mp h
    have hcount : (left.mapFields f).fragment.params.length = left.paramCount := by
      rw [params_fragment, values_mapFields, length_values]
    have hwritten : Filter.Written R style n (.logical op left right) _ :=
      .logical (ihl hl n) (ihr hr (n + left.paramCount))
    rw [mapFields, fragment]
    simpa [renderFrom, renderFrom_append, hcount] using hwritten
  | not inner ih =>
    have hinner := ih h n
    cases inner with
    | logical op left right => exact .notLogical hinner
    | comparison field op value | not inner =>
      have hwritten := Filter.Written.not (fun _ _ _ h => by cases h) hinner
      simpa [mapFields, fragment, renderFrom, renderFrom_append] using hwritten

end Writing

namespace Statement

variable (s : Statement) (style : PlaceholderStyle)

def clauseTexts : ClauseTexts where
  columns := s.columns.map Column.sql
  table := s.tableText
  joins := s.joins.map PlannedJoin.sql
  condition := s.filter.map (Fragment.renderFrom style 1 ·.fragment)
  groupBy := s.groupBy
  orderBy := s.orderBy.map SortKey.sql
  limit := s.limit
  offset := s.offset

theorem tableText_eq : s.tableText = introduction s.table (s.aliasName.getD s.table) := by
  unfold tableText introduction
  cases s.aliasName with
  | none => exact (if_pos rfl).symm
  | some a => rfl

theorem render_fragment : s.fragment.render style =
    s.head ++ Fragment.renderFrom style 1 s.condition ++ s.tail := by
  rw [Fragment.render, fragment, List.cons_append, Fragment.renderFrom,
    Fragment.renderFrom_append, List.append_assoc]
  simp [Fragment.renderFrom]

theorem listClause_eq (word : Text) (entries : List Text) :
    listClause word entries = ClauseTexts.optional word (ClauseTexts.entries? entries) := by
  cases entries with
  | nil => rfl
  | cons first rest => rfl

theorem numberClause_eq (word : Text) (n : Option Nat) :
    numberClause word n = ClauseTexts.optional word (n.map (Nat.toDigits 10)) := by
  cases n with
  | none => rfl
  | some n => rfl

theorem renderFrom_condition : Fragment.renderFrom style 1 s.condition =
    ClauseTexts.optional " WHERE ".toList (s.clauseTexts style).condition := by
  unfold condition clauseTexts
  cases s.filter with
  | none => rfl
  | some e => rfl

theorem head_eq_text : s.head =
    "SELECT ".toList ++ [',', ' '].intercalate (s.columns.map Column.sql) ++ " FROM ".toList ++
    s.tableText ++ (s.joins.map PlannedJoin.sql).flatMap (' ' :: ·) := by
  rw [List.flatMap_map]
  rfl

theorem tail_eq_text : s.tail =
    ClauseTexts.optional " GROUP BY ".toList (ClauseTexts.entries? s.groupBy) ++
    ClauseTexts.optional " ORDER BY ".toList (ClauseTexts.entries? (s.orderBy.map SortKey.sql)) ++
    ClauseTexts.optional " LIMIT ".toList (s.limit.map (Nat.toDigits 10)) ++
    ClauseTexts.optional " OFFSET ".toList (s.offset.map (Nat.toDigits 10)) := by
  rw [← listClause_eq, ← listClause_eq, ← numberClause_eq, ← numberClause_eq]
  rfl

theorem render_eq_text : s.fragment.render style = (s.clauseTexts style).text := by
  rw [render_fragment, renderFrom_condition, head_eq_text, tail_eq_text, ← List.append_assoc,
    ← List.append_assoc, ← List.append_assoc]
  rfl

/-- The text of a statement is that of its clauses. -/
theorem sql_eq_clauseTexts : s.sql style = (s.clauseTexts style).sql := by
  rw [sql, render_eq_text, Text.collapse, Text.words, Text.splitBy_eq_splitOnP, ClauseTexts.sql]

end Statement

end RequestSql
