import RequestSql.Proofs.Delimiters
import RequestSql.Proofs.Qualifiers

namespace RequestSql

section Words

open Text

theorem Text.isBlank_of_isTermChar {c : Char} (h : isTermChar c = true) : isBlank c = false := by
  rw [isTermChar, Bool.or_eq_true, beq_iff_eq] at h
  rcases h with h | rfl
  · exact isBlank_of_isNameChar h
  · decide

theorem Text.IsTerm.tidy {t : Text} (h : t.IsTerm) : Tidy t :=
  .word h.ne_nil fun c hc => isBlank_of_isTermChar (h.chars c hc)

theorem Text.Tidy.fixed (t : Text) (h : (!t.isEmpty && t.all (!isBlank ·)) = true) : Tidy t := by
  rw [Bool.and_eq_true, List.all_eq_true] at h
  refine .word ?_ fun c hc => by simpa using h.2 c hc
  rintro rfl
  exact absurd h.1 (by decide)

theorem PlaceholderStyle.tidy_placeholder (style : PlaceholderStyle) (n : Nat) :
    Tidy (style.placeholder n) := by
  cases style with
  | mysql => exact .fixed ['?'] (by decide)
  | postgres => exact (Tidy.fixed ['$'] (by decide)).append (ofNat_isTerm n).tidy

theorem Column.tidy_sql {c : Column} (h : c.IsNamed) : Tidy c.sql := by
  cases c with
  | all => exact (isTerm_sql h (by simp)).tidy
  | field name => exact (isTerm_sql h (by simp)).tidy
  | aggregate a =>
    obtain ⟨hf, ha, ho⟩ := h
    have hoperand : Tidy (['('] ++ a.operand.text ++ [')']) :=
      ((Tidy.fixed ['('] (by decide)).append (Operand.isTerm_text ho).tidy).append
        (.fixed [')'] (by decide))
    have has : Tidy ("AS".toList ++ ' ' :: a.aliasName) :=
      (Tidy.fixed "AS".toList (by decide)).space ha.tidy
    have h := (hf.tidy.append hoperand).space has
    simpa [sql, Aggregate.sql, Aggregate.sqlOver] using h

theorem SortKey.tidy_sql {k : SortKey} (h : k.IsNamed) : Tidy k.sql := by
  unfold SortKey.sql
  split
  · rename_i d hd
    exact h.field.tidy.space (OrderBy.isDirection_isTerm (h.direction d hd)).tidy
  · exact h.field.tidy

end Words

section Filters

open Text Fragment

variable {style : PlaceholderStyle}

/-- The words of a filter have one space between any two, also where parentheses go around it. -/
theorem Filter.tidy_render (e : Filter) (he : e.IsNamed) (n : Nat) :
    Tidy (renderFrom style n e.fragment) ∧ Tidy (renderFrom style n e.body) := by
  induction e generalizing n with
  | comparison field op value =>
    have hop : Tidy op.sql := by cases op <;> exact .fixed _ (by decide)
    have h : Tidy (renderFrom style n (comparison field op value).fragment) := by
      have hfield : field.IsTerm := he field List.mem_cons_self
      simpa [fragment, renderFrom] using
        hfield.tidy.space (hop.space (style.tidy_placeholder n))
    exact ⟨h, h⟩
  | logical op l r ihl ihr =>
    obtain ⟨hl, hr⟩ := List.forall_mem_append.mp he
    have hop : Tidy op.sql := by cases op <;> exact .fixed _ (by decide)
    have hbody : Tidy (renderFrom style n (logical op l r).body) := by
      rw [body, renderFrom_append]
      simpa [renderFrom] using (ihl hl n).1.space (hop.space (ihr hr _).1)
    refine ⟨?_, hbody⟩
    have h := render_logical style n [] op l r
    rw [List.append_nil, renderFrom_append] at h
    rw [h]
    exact ((Tidy.fixed ['('] (by decide)).append hbody).append (.fixed [')'] (by decide))
  | not inner ih =>
    have h := render_not style n [] inner
    rw [List.append_nil, renderFrom_append] at h
    have htidy : Tidy (renderFrom style n (not inner).fragment) := by
      rw [h]
      refine (Tidy.fixed "NOT".toList (by decide)).space ?_
      exact ((Tidy.fixed ['('] (by decide)).append (ih he n).2).append (.fixed [')'] (by decide))
    exact ⟨htidy, htidy⟩

end Filters

structure Statement.IsNamed (s : Statement) : Prop where
  columns_ne_nil : s.columns ≠ []
  columns : ∀ c ∈ s.columns, c.IsNamed
  table : s.table.IsTerm
  aliasName : ∀ a ∈ s.aliasName, a.IsTerm
  joins : s.joins = []
  filter : ∀ e ∈ s.filter, e.IsNamed
  groupBy : ∀ field ∈ s.groupBy, field.IsTerm
  orderBy : ∀ k ∈ s.orderBy, k.IsNamed

/-- Statements with the same parts. Functions are compared by their names in SQL, since a request may
spell one function in several ways. -/
structure Statement.SameParts (s s' : Statement) : Prop where
  columns : s.columns.map Column.named = s'.columns.map Column.named
  filter : s.filter = s'.filter
  groupBy : s.groupBy = s'.groupBy
  orderBy : s.orderBy = s'.orderBy
  limit : s.limit = s'.limit
  offset : s.offset = s'.offset

namespace Statement

open Text

variable {s s' : Statement} {style : PlaceholderStyle}

section Clauses

theorem tail_eq (s : Statement) : s.tail =
    listClause (' ' :: "GROUP BY ".toList) s.groupBy ++
      (listClause (' ' :: "ORDER BY ".toList) (s.orderBy.map SortKey.sql) ++
        (numberClause (' ' :: "LIMIT ".toList) s.limit ++
          (numberClause (' ' :: "OFFSET ".toList) s.offset ++ []))) := by
  simp [tail]

theorem opens_offset (n : Option Nat) :
    Opens ["OFFSET ".toList] (numberClause (' ' :: "OFFSET ".toList) n ++ []) :=
  opens_numberClause (.inl rfl)

theorem opens_paging (m n : Option Nat) :
    Opens pagingWords (numberClause (' ' :: "LIMIT ".toList) m ++
      (numberClause (' ' :: "OFFSET ".toList) n ++ [])) :=
  opens_numberClause (opens_offset n)

theorem opens_order (keys : List SortKey) (m n : Option Nat) :
    Opens ("ORDER BY ".toList :: pagingWords)
      (listClause (' ' :: "ORDER BY ".toList) (keys.map SortKey.sql) ++
        (numberClause (' ' :: "LIMIT ".toList) m ++
          (numberClause (' ' :: "OFFSET ".toList) n ++ []))) :=
  opens_listClause (opens_paging m n)

/-- What stands after the condition is told from the text. -/
theorem tail_inj (hs : s.IsNamed) (hs' : s'.IsNamed) (h : s.tail = s'.tail) :
    s.groupBy = s'.groupBy ∧ s.orderBy = s'.orderBy ∧ s.limit = s'.limit ∧
      s.offset = s'.offset := by
  -- The clauses are cancelled one after the other; the words of those that may follow tell whether
  -- a clause is there.
  rw [tail_eq, tail_eq, ← List.map_id s.groupBy, ← List.map_id s'.groupBy] at h
  obtain ⟨hgroup, h⟩ := listClause_append_inj
    (fun _ _ _ _ ha hb hu hv h => term_append_inj ha hb hu.ends hv.ends h) hs.groupBy hs'.groupBy
    (opens_order _ _ _) (opens_order _ _ _) (by decide) h
  obtain ⟨horder, h⟩ := listClause_append_inj SortKey.sql_append_inj hs.orderBy hs'.orderBy
    (opens_paging _ _) (opens_paging _ _) (by decide) h
  obtain ⟨hlimit, h⟩ := numberClause_append_inj (opens_offset _) (opens_offset _) (by decide) h
  have hnil : Opens [] [] := .inl rfl
  obtain ⟨hoffset, _⟩ := numberClause_append_inj hnil hnil (by decide) h
  exact ⟨hgroup, horder, hlimit, hoffset⟩

theorem tail_not_where (s : Statement) : ¬ (' ' :: "WHERE ".toList) <+: s.tail := by
  rw [tail_eq]
  exact (opens_listClause (opens_order _ _ _)).not_begins (by decide)

/-- The filter, but for its values, and what stands after it are told from the text. -/
theorem condition_append_inj (hs : s.IsNamed) (hs' : s'.IsNamed)
    (h : Fragment.renderFrom style 1 (s.condition ++ [.text s.tail]) =
      Fragment.renderFrom style 1 (s'.condition ++ [.text s'.tail])) :
    s.filter.map Filter.outline = s'.filter.map Filter.outline ∧ s.tail = s'.tail := by
  cases hf : s.filter with
  | none =>
    cases hf' : s'.filter with
    | none => simpa [condition, hf, hf', Fragment.renderFrom] using h
    | some e' =>
      refine absurd ?_ s.tail_not_where
      simp only [condition, hf, hf', Fragment.renderFrom, List.nil_append, List.append_nil,
        List.cons_append] at h
      rw [h]
      exact List.prefix_append _ _
  | some e =>
    cases hf' : s'.filter with
    | none =>
      refine absurd ?_ s'.tail_not_where
      simp only [condition, hf, hf', Fragment.renderFrom, List.nil_append, List.append_nil,
        List.cons_append] at h
      rw [← h]
      exact List.prefix_append _ _
    | some e' =>
      simp only [condition, hf, hf', Fragment.renderFrom, List.cons_append] at h
      -- Both conditions begin alike, so the first parameter has the same position in both.
      have htold : e.Told style := (e.told_and_bodyTold (hs.filter e hf)).1
      obtain ⟨ho, ht⟩ := htold e' 1 _ _ (hs'.filter e' hf') (List.append_cancel_left h)
      simp only [Fragment.renderFrom, List.append_nil] at ht
      exact ⟨congrArg some ho, ht⟩

end Clauses

/-- What stands before the condition, where there are no joins. -/
theorem head_eq (hs : s.IsNamed) : s.head =
    "SELECT ".toList ++ (commaList (s.columns.map Column.sql) ++
      (" FROM ".toList ++ s.tableText)) := by
  unfold head
  simp only [hs.joins, List.flatMap_nil, List.append_nil, List.append_assoc]

section Spacing

variable {u word w : Text}

theorem tidy_listClause {entries : List Text} (hu : Tidy u) (hw : Tidy w)
    (hword : word = ' ' :: (w ++ [' '])) (he : ∀ t ∈ entries, Tidy t) :
    Tidy (u ++ listClause word entries) := by
  cases entries with
  | nil => simpa [listClause] using hu
  | cons t rest =>
    have h := hu.space (hw.space (Tidy.commaList (by simp) he))
    simpa [listClause, hword] using h

theorem tidy_numberClause {n : Option Nat} (hu : Tidy u) (hw : Tidy w)
    (hword : word = ' ' :: (w ++ [' '])) : Tidy (u ++ numberClause word n) := by
  cases n with
  | none => simpa [numberClause] using hu
  | some n =>
    have h := hu.space (hw.space (ofNat_isTerm n).tidy)
    simpa [numberClause, hword] using h

theorem tidy_tail (hs : s.IsNamed) (hu : Tidy u) : Tidy (u ++ s.tail) := by
  have hby : ∀ t : Text, (!t.isEmpty && t.all (!isBlank ·)) = true →
      Tidy (t ++ ' ' :: "BY".toList) :=
    fun t ht => (Tidy.fixed t ht).space (.fixed "BY".toList (by decide))
  have hkeys : ∀ t ∈ s.orderBy.map SortKey.sql, Tidy t := by
    intro t ht
    obtain ⟨k, hk, rfl⟩ := List.mem_map.mp ht
    exact SortKey.tidy_sql (hs.orderBy k hk)
  have hgroup := tidy_listClause hu (hby "GROUP".toList (by decide)) rfl
    fun t ht => (hs.groupBy t ht).tidy
  have horder := tidy_listClause hgroup (hby "ORDER".toList (by decide)) rfl hkeys
  have hlimit := tidy_numberClause (n := s.limit) horder (.fixed "LIMIT".toList (by decide)) rfl
  have hoffset := tidy_numberClause (n := s.offset) hlimit (.fixed "OFFSET".toList (by decide)) rfl
  simpa [tail] using hoffset

theorem tidy_head (hs : s.IsNamed) : Tidy s.head := by
  have hcolumns : Tidy (commaList (s.columns.map Column.sql)) := by
    refine Tidy.commaList (by simp [hs.columns_ne_nil]) ?_
    intro t ht
    obtain ⟨c, hc, rfl⟩ := List.mem_map.mp ht
    exact Column.tidy_sql (hs.columns c hc)
  have htable : Tidy s.tableText := by
    unfold tableText
    split
    · rename_i a ha
      split
      · exact hs.table.tidy
      · exact hs.table.tidy.space (hs.aliasName a ha).tidy
    · exact hs.table.tidy
  have hfrom : Tidy ("FROM".toList ++ ' ' :: s.tableText) :=
    (Tidy.fixed "FROM".toList (by decide)).space htable
  rw [head_eq hs]
  exact (Tidy.fixed "SELECT".toList (by decide)).space (hcolumns.space hfrom)

/-- Collapsing leaves the text of a statement as it is. -/
theorem sql_eq_render (hs : s.IsNamed) : s.sql style = s.fragment.render style := by
  have hcondition : Tidy (s.head ++ Fragment.renderFrom style 1 s.condition) := by
    unfold condition
    split
    · rename_i e he
      have hfilter : Tidy (Fragment.renderFrom style 1 e.fragment) :=
        (e.tidy_render (hs.filter e he) 1).1
      have hwhere := (Tidy.fixed "WHERE".toList (by decide)).space hfilter
      simpa [Fragment.renderFrom] using (tidy_head hs).space hwhere
    · simpa [Fragment.renderFrom] using tidy_head hs
  rw [sql, render_fragment, (tidy_tail hs hcondition).collapse_eq]

end Spacing

theorem render_eq (hs : s.IsNamed) : s.fragment.render style =
    "SELECT ".toList ++ (commaList (s.columns.map Column.sql) ++ (" FROM ".toList ++
      (s.tableText ++ Fragment.renderFrom style 1 (s.condition ++ [.text s.tail])))) := by
  rw [Fragment.render, fragment, List.cons_append, Fragment.renderFrom, head_eq hs]
  simp only [List.append_assoc]

/-- Statements over one table that have the same text and the same parameters have the same
parts. -/
theorem sameParts_of_sql (hs : s.IsNamed) (hs' : s'.IsNamed) (htable : s.table = s'.table)
    (halias : s.aliasName = s'.aliasName) (hsql : s.sql style = s'.sql style)
    (hparams : s.params = s'.params) : s.SameParts s' := by
  have hfrom : ∀ t, Opens ["FROM ".toList] (" FROM ".toList ++ t) :=
    fun t => .inr ⟨_, List.mem_cons_self, List.prefix_append _ t⟩
  have htext : s.tableText = s'.tableText := by rw [tableText, tableText, htable, halias]
  rw [sql_eq_render hs, sql_eq_render hs', render_eq hs, render_eq hs', htext] at hsql
  obtain ⟨hcolumns, hrest⟩ := commaList_append_inj Column.sql_append_inj hs.columns_ne_nil
    hs'.columns_ne_nil hs.columns hs'.columns (hfrom _) (hfrom _) (List.append_cancel_left hsql)
  obtain ⟨hfilter, htail⟩ := condition_append_inj hs hs'
    (List.append_cancel_left (List.append_cancel_left hrest))
  obtain ⟨hgroup, horder, hlimit, hoffset⟩ := tail_inj hs hs' htail
  refine ⟨hcolumns, ?_, hgroup, horder, hlimit, hoffset⟩
  -- The text gives the outline of the filter, and the parameters are its values.
  rw [params_eq, params_eq] at hparams
  cases hf : s.filter with
  | none =>
    cases hf' : s'.filter with
    | none => rfl
    | some e' => simp [hf, hf'] at hfilter
  | some e =>
    cases hf' : s'.filter with
    | none => simp [hf, hf'] at hfilter
    | some e' =>
      rw [hf, hf', Option.map_some, Option.map_some] at hfilter hparams
      rw [Filter.eq_of_outline (Option.some.inj hfilter) hparams]

end Statement

def Schema.IsNamed (s : Schema) : Prop :=
  ∀ entry ∈ s.tables.entries, Name.isIdentifier entry.1 = true ∧
    ∀ a ∈ entry.2.aliasName, Name.isIdentifier a = true

section Resolution

variable {s : Scope} {field name : Text}

theorem Name.isIdentifier_named {t : Text} (h : isIdentifier t = true) : t ≠ [] ∧ t.IsName :=
  ⟨isIdentifier_ne_nil h, isIdentifier_isName h⟩

theorem Name.isIdentifier_isTerm {t : Text} (h : isIdentifier t = true) : t.IsTerm :=
  .of_name (isIdentifier_ne_nil h) (isIdentifier_isName h)

theorem Scope.joinAlias_of_no_joins (hj : s.declaredJoins = []) : s.joinAlias? name = none := by
  simp [joinAlias?, hj]

theorem Schema.qualifier_isName {schema : Schema} {t : Table} (hn : schema.IsNamed)
    (h : (name, t) ∈ schema.tables.entries) : (schema.qualifier name).IsName := by
  unfold Schema.qualifier
  cases ha : (schema.get? name).bind Table.aliasName with
  | none => exact Name.isIdentifier_isName (hn _ h).1
  | some a =>
    obtain ⟨t', ht', ha⟩ := Option.bind_eq_some_iff.mp ha
    exact Name.isIdentifier_isName ((hn _ (mem_of_lookup ht')).2 a ha)

/-- Where tables and aliases are identifiers, so is what a field is qualified with. -/
theorem Scope.tableQualifier_isName (hj : s.declaredJoins = []) (hn : s.schema.IsNamed)
    (ha : ∀ a ∈ s.aliasName, a.IsName) (ho : s.owner? field = some name) :
    (s.tableQualifier name).IsName := by
  obtain ⟨t, ht⟩ := owner_mem ho
  unfold Scope.tableQualifier
  split
  · cases haa : s.aliasName with
    | none => exact Name.isIdentifier_isName (hn _ ht).1
    | some a => exact ha a haa
  · rw [joinAlias_of_no_joins hj]
    exact Schema.qualifier_isName hn ht

theorem Scope.resolve_named (hj : s.declaredJoins = []) (hn : s.schema.IsNamed)
    (ha : ∀ a ∈ s.aliasName, a.IsName) (hf : field ≠ [] ∧ field.IsName) :
    s.resolve field ≠ [] ∧ (s.resolve field).IsName := by
  obtain ⟨hne, hname⟩ := hf
  have hpoint : Text.isNameChar '.' = true := by decide
  unfold Scope.resolve
  split
  · exact ⟨hne, hname⟩
  · split
    · rename_i name ho
      refine ⟨by simp, List.forall_mem_append.mpr ⟨?_, List.forall_mem_cons.mpr ⟨hpoint, hname⟩⟩⟩
      exact tableQualifier_isName hj hn ha ho
    · refine ⟨by simp [hne], List.forall_mem_append.mpr ⟨?_, hname⟩⟩
      unfold Scope.defaultQualifier
      split
      · rename_i a haa
        exact List.forall_mem_append.mpr ⟨ha a haa, by simpa using hpoint⟩
      · simp

theorem Column.IsNamed.map {c : Column} {f : Text → Text}
    (hf : ∀ name : Text, name ≠ [] ∧ name.IsName → f name ≠ [] ∧ (f name).IsName)
    (hc : c.IsNamed) :
    (c.map f).IsNamed := by
  cases c with
  | all => trivial
  | field name => exact hf name hc
  | aggregate a =>
    obtain ⟨operand, function, aliasName⟩ := a
    obtain ⟨hfunction, halias, hoperand⟩ := hc
    refine ⟨hfunction, halias, ?_⟩
    cases operand with
    | rows => trivial
    | field name => exact hf name hoperand

end Resolution

section Requests

open Text

theorem ne_nil_of_mapM {ε α β : Type} {f : α → Except ε β} {xs : List α} {ys : List β}
    (h : xs.mapM f = .ok ys) (hxs : xs ≠ []) : ys ≠ [] := by
  rintro rfl
  exact hxs (List.forall₂_nil_right_iff.mp (mapM_eq_ok.mp h))

theorem Select.parse_isNamed {value : Text} {columns : List Column}
    (h : Select.parse value = .ok columns) : columns ≠ [] ∧ ∀ c ∈ columns, c.IsNamed := by
  refine ⟨ne_nil_of_mapM h (splitOn_ne_nil ',' value), ?_⟩
  intro c hc
  rcases Select.parse_names h c hc with rfl | ⟨name, rfl, hn⟩
  · trivial
  · exact Name.isIdentifier_named hn

theorem Aggregate.Named.isNamed {a : Aggregate} (h : a.Named) : (Column.aggregate a).IsNamed := by
  obtain ⟨operand, function, aliasName⟩ := a
  obtain ⟨hoperand, ⟨name, hw, hfunction⟩, halias⟩ := h
  obtain ⟨hne, hname⟩ := AggregateFunction.ofName_isName hw
  refine ⟨?_, Name.isIdentifier_isTerm halias, ?_⟩
  · rw [hfunction]
    exact .of_name hne hname
  · rcases hoperand with rfl | ⟨field, rfl, hf⟩
    · trivial
    · exact Name.isIdentifier_named hf

/-- Rows are grouped by at least one field. -/
theorem Apply.parse_fields_ne_nil {value : Text} {g : Grouping} (h : Apply.parse value = .ok g) :
    g.fields ≠ [] := by
  unfold Apply.parse at h
  split at h
  · cases h
  · obtain ⟨fields, hf, h⟩ := bind_eq_ok.mp h
    obtain ⟨aggregates, _, h⟩ := bind_eq_ok.mp h
    cases h
    exact ne_nil_of_mapM hf (splitOn_ne_nil ',' _)

theorem Apply.parse_isNamed {value : Text} {g : Grouping} (h : Apply.parse value = .ok g) :
    g.columns ≠ [] ∧ ∀ c ∈ g.columns, c.IsNamed := by
  obtain ⟨hfields, haggregates⟩ := Apply.parse_names h
  constructor
  · simp [Grouping.columns, Apply.parse_fields_ne_nil h]
  · refine List.forall_mem_append.mpr ⟨?_, ?_⟩
    · intro c hc
      obtain ⟨field, hm, rfl⟩ := List.mem_map.mp hc
      exact Name.isIdentifier_named (hfields field hm)
    · intro c hc
      obtain ⟨a, hm, rfl⟩ := List.mem_map.mp hc
      exact (haggregates a hm).isNamed

end Requests

namespace Options.Stages

open Text

variable {o : Options} {given : Directives} (s : o.Stages given)

theorem expansions_eq_nil (hj : o.scope.declaredJoins = []) : s.expansions = [] := by
  apply List.eq_nil_iff_forall_not_mem.mpr
  intro e he
  obtain ⟨a, ha⟩ := s.expansions_joined e he
  rw [Scope.joinAlias_of_no_joins hj] at ha
  cases ha

/-- Without joins, the columns of a statement are those that the request names. -/
theorem columns_read (hj : o.scope.declaredJoins = []) :
    ∃ columns, s.projection.columns = columns.map (Column.map o.scope.resolve) ∧
      columns ≠ [] ∧ ∀ c ∈ columns, c.IsNamed := by
  cases hg : given .apply with
  | some value =>
    obtain ⟨g, hp, hs⟩ := s.projection_grouped hg
    exact ⟨g.columns, by rw [hs, Scope.groupedProjection_columns], Apply.parse_isNamed hp⟩
  | none =>
    obtain ⟨selected, hselected, hs⟩ := s.projection_plain hg
    refine ⟨selected.getD [.all], by simp [hs, Scope.plainProjection, s.expansions_eq_nil hj], ?_⟩
    cases hselect : given .select with
    | none =>
      rw [Directives.read_absent hselected hselect]
      exact ⟨by simp, by simp [Column.IsNamed]⟩
    | some value =>
      obtain ⟨columns, hp, rfl⟩ := Directives.read_given hselected hselect
      exact Select.parse_isNamed hp

variable (hj : o.scope.declaredJoins = []) (hn : o.schema.IsNamed)

include s hj hn

theorem resolve_named {field : Text} (hf : field ≠ [] ∧ field.IsName) :
    o.scope.resolve field ≠ [] ∧ (o.scope.resolve field).IsName :=
  Scope.resolve_named hj hn s.alias_isName hf

theorem resolve_isTerm {field : Text} (hf : field ≠ [] ∧ field.IsName) :
    (o.scope.resolve field).IsTerm :=
  .of_name (s.resolve_named hj hn hf).1 (s.resolve_named hj hn hf).2

theorem groupBy_isTerm : ∀ field ∈ s.projection.groupBy, field.IsTerm := by
  cases hg : given .apply with
  | some value =>
    obtain ⟨g, hp, hs⟩ := s.projection_grouped hg
    rw [hs]
    intro t ht
    obtain ⟨field, hf, rfl⟩ := List.mem_map.mp ht
    exact s.resolve_isTerm hj hn (Name.isIdentifier_named ((Apply.parse_names hp).1 field hf))
  | none =>
    obtain ⟨selected, _, hs⟩ := s.projection_plain hg
    simp [hs, Scope.plainProjection]

theorem filter_isNamed : ∀ e ∈ s.filter, e.IsNamed := by
  intro e he
  cases hg : given .filter with
  | none =>
    rw [s.filter_absent hg] at he
    cases he
  | some value =>
    obtain ⟨parsed, hp, hs⟩ := s.filter_given hg
    rw [hs] at he
    cases he
    intro t ht
    rw [Filter.fields_mapFields] at ht
    obtain ⟨field, hf, rfl⟩ := List.mem_map.mp ht
    exact s.resolve_isTerm hj hn (Filter.parse_fields hp field hf)

theorem orderBy_isNamed : ∀ k ∈ s.clauses.orderBy, k.IsNamed := by
  cases hg : given .orderBy with
  | none => simp [s.orderBy_absent hg]
  | some value =>
    obtain ⟨keys, hp, hs⟩ := s.orderBy_given hg
    rw [hs]
    intro k hk
    obtain ⟨key, hm, rfl⟩ := List.mem_map.mp hk
    obtain ⟨hf, hd⟩ := OrderBy.parse_names hp key hm
    exact ⟨s.resolve_isTerm hj hn (Name.isIdentifier_named hf), hd⟩

/-- Where the schema is made of identifiers and the primary table declares no joins, every
statement is made of names. -/
theorem isNamed : s.statement.IsNamed := by
  obtain ⟨htable, halias⟩ := check_names s.checked
  obtain ⟨columns, hcolumns, hne, hnamed⟩ := s.columns_read hj
  have hall : ∀ c ∈ s.projection.columns, c.IsNamed := by
    rw [hcolumns]
    intro c hc
    obtain ⟨column, hm, rfl⟩ := List.mem_map.mp hc
    exact (hnamed column hm).map fun name hf => s.resolve_named hj hn hf
  have hsome : s.projection.columns ≠ [] := by simpa [hcolumns] using hne
  have hjoins : s.statement.joins = [] := by
    simp [Stages.statement, assemble, Scope.plan, hj]
  exact ⟨hsome, hall, Name.isIdentifier_isTerm htable,
    fun a ha => Name.isIdentifier_isTerm (halias a ha), hjoins, s.filter_isNamed hj hn,
    s.groupBy_isTerm hj hn, s.orderBy_isNamed hj hn⟩

end Options.Stages

/-- Names cannot move the boundaries of clauses. Where the schema is made of identifiers and the
primary table declares no joins, two requests that give the same text and the same parameters ask
for statements with the same parts. -/
theorem parts_of_query {o : Options} {p p' : Params} {q : Query}
    (hj : o.scope.declaredJoins = []) (hn : o.schema.IsNamed) (h : compileParams o p = .ok q)
    (h' : compileParams o p' = .ok q) :
    ∃ s s', o.statement p.directives = .ok s ∧ o.statement p'.directives = .ok s' ∧
      s.SameParts s' := by
  obtain ⟨s, hs, hq⟩ := compileParams_eq_ok h
  obtain ⟨s', hs', hq'⟩ := compileParams_eq_ok h'
  obtain ⟨stages, rfl⟩ := Options.statement_eq_ok hs
  obtain ⟨stages', rfl⟩ := Options.statement_eq_ok hs'
  rw [hq, Query.ofStatement, Query.ofStatement, Query.mk.injEq] at hq'
  exact ⟨_, _, hs, hs', Statement.sameParts_of_sql (stages.isNamed hj hn) (stages'.isNamed hj hn)
    rfl rfl hq'.1 hq'.2⟩

def Options.customers : Options :=
  { Options.orders with table := "customers".toList }

def Params.clauseNames : Params :=
  ⟨[("$apply".toList, "groupby((city),aggregate(name with max as FROM))".toList),
    ("$filter".toList, "LIMIT gt 5".toList), ("$orderby".toList, "desc desc".toList)]⟩

def Params.qualifiedClauseNames : Params :=
  ⟨[("$apply".toList, "groupby((c.city),aggregate(c.name with MAX as FROM))".toList),
    ("$filter".toList, "c.LIMIT gt 5".toList), ("$orderby".toList, "c.desc desc".toList)]⟩

theorem parts_of_query_customers :
    Options.customers.scope.declaredJoins = [] ∧ Options.customers.schema.IsNamed ∧
      ∃ q s s', compileParams .customers .clauseNames = .ok q ∧
        compileParams .customers .qualifiedClauseNames = .ok q ∧
        Options.customers.statement Params.clauseNames.directives = .ok s ∧
        Options.customers.statement Params.qualifiedClauseNames.directives = .ok s' ∧
        s.SameParts s' := by
  have hj : Options.customers.scope.declaredJoins = [] := by decide +kernel
  have hn : Options.customers.schema.IsNamed := by
    intro entry he
    rcases List.mem_cons.mp he with rfl | he
    · decide +kernel
    · rw [List.mem_singleton.mp he]
      decide +kernel
  have h : compileParams .customers .clauseNames = .ok
      { sql := ("SELECT c.city, MAX(c.name) AS FROM FROM customers c WHERE c.LIMIT > $1 " ++
          "GROUP BY c.city ORDER BY c.desc desc").toList
        params := [.int 5] } := by decide +kernel
  have h' : compileParams .customers .qualifiedClauseNames = .ok
      { sql := ("SELECT c.city, MAX(c.name) AS FROM FROM customers c WHERE c.LIMIT > $1 " ++
          "GROUP BY c.city ORDER BY c.desc desc").toList
        params := [.int 5] } := by decide +kernel
  obtain ⟨s, s', hs, hs', hparts⟩ := parts_of_query hj hn h h'
  exact ⟨hj, hn, _, s, s', h, h', hs, hs', hparts⟩

end RequestSql
