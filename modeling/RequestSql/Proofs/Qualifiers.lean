import RequestSql.Proofs.Clauses

namespace RequestSql

section Naming

variable {sep : Char} {t u : Text}

theorem Text.cutLast_eq_none (h : sep ∉ t) : cutLast sep t = none := by
  induction t with
  | nil => rfl
  | cons c t ih =>
    obtain ⟨hc, ht⟩ := not_or.mp (mt List.mem_cons.mpr h)
    rw [cutLast, ih ht]
    exact if_neg (Ne.symm hc)

theorem Text.cutLast_append (h : sep ∉ t) : cutLast sep (u ++ sep :: t) = some (u, t) := by
  induction u with
  | nil =>
    rw [List.nil_append, cutLast, cutLast_eq_none h]
    exact if_pos rfl
  | cons c u ih => rw [List.cons_append, cutLast, ih]

/-- The qualifier is recovered from a name that has been qualified. -/
theorem Name.qualifier_append (h : '.' ∉ t) : qualifier? (u ++ '.' :: t) = some u := by
  rw [qualifier?, Text.cutLast_append h]
  rfl

end Naming

/-- A table that declares a column which no table before it declares. -/
def Schema.FirstDeclares (s : Schema) (name column : Text) : Prop :=
  ∃ before t after, s.tables.entries = before ++ (name, t) :: after ∧ column ∈ t.columns ∧
    ∀ entry ∈ before, column ∉ entry.2.columns

/-- A field without a point that the primary table, a table to which it declares a join, or no table
at all is the first to declare. -/
def Scope.Reaches (s : Scope) (field : Text) : Prop :=
  '.' ∉ field ∧ ∀ name, s.schema.FirstDeclares name field →
    name = s.table ∨ ∃ spec, (name, spec) ∈ s.declaredJoins

namespace Options

def introduced (o : Options) (joins : List PlannedJoin) : List Text :=
  o.effectiveAlias.getD o.table :: joins.map PlannedJoin.aliasName

/-- A field of a request and how it is shown in a statement with the given joins. -/
structure Shows (o : Options) (joins : List PlannedJoin) (field shown : Text) : Prop where
  resolved : shown = o.scope.resolve field
  introduced : o.scope.Reaches field →
    shown = field ∨ ∃ q ∈ o.introduced joins, shown = q ++ '.' :: field

/-- An expanded table and how its columns are shown: under the alias of the join to the table. -/
def ShowsExpanded (o : Options) (joins : List PlannedJoin) (e : Expansion) (shown : List Text) :
    Prop :=
  ∃ j ∈ joins, j.table = e.table ∧
    shown = e.selects.map (fun f => if '.' ∈ f then f else j.aliasName ++ '.' :: f) ∧
    ∀ f ∈ e.selects, '.' ∉ f → e.table ≠ o.table → o.schema.FirstDeclares e.table f →
      o.scope.resolve f = j.aliasName ++ '.' :: f

end Options

/-- The clauses of the statement for a request: what they call the primary table and the tables that
are joined, and where and how each name of the request stands in them. -/
structure ClauseTexts.Answers (c : ClauseTexts) (o : Options) (given : Directives)
    (joins : List PlannedJoin) : Prop where
  table : c.table = introduction o.table (o.effectiveAlias.getD o.table)
  joined : List.Forall₂ PlannedJoin.Written joins c.joins
  filter : ∀ value, given .filter = some value → ∃ e t, Filter.parse value = .ok e ∧
    c.condition = some t ∧ e.Written (o.Shows joins) o.style 1 t
  unfiltered : given .filter = none → c.condition = none
  orderBy : ∀ value, given .orderBy = some value → ∃ keys, OrderBy.parse value = .ok keys ∧
    List.Forall₂ (SortKey.Written (o.Shows joins)) keys c.orderBy
  unordered : given .orderBy = none → c.orderBy = []
  grouped : ∀ value, given .apply = some value → ∃ g, Apply.parse value = .ok g ∧
    List.Forall₂ (o.Shows joins) g.fields c.groupBy ∧
    List.Forall₂ (Column.Written (o.Shows joins))
      (g.fields.map .field ++ g.aggregates.map .aggregate) c.columns
  plain : given .apply = none → c.groupBy = [] ∧ ∃ selected expansions own others,
    (∀ value, given .select = some value → Select.parse value = .ok selected) ∧
    (given .select = none → selected = [.all]) ∧
    (∀ value, given .expand = some value → Expand.parse value = .ok expansions) ∧
    (given .expand = none → expansions = []) ∧
    c.columns = own ++ others.flatten ∧
    List.Forall₂ (Column.Written (o.Shows joins)) selected own ∧
    List.Forall₂ (o.ShowsExpanded joins) expansions others

theorem Column.reference_map {c : Column} {field : Text} (f : Text → Text)
    (h : field ∈ c.field?) : (c.map f).reference = f field := by
  cases c with
  | all => cases h
  | field name =>
    cases h
    rfl
  | aggregate a =>
    obtain ⟨operand, function, aliasName⟩ := a
    cases operand with
    | rows => cases h
    | field name =>
      cases h
      rfl

def Grouping.columns (g : Grouping) : List Column :=
  g.fields.map .field ++ g.aggregates.map .aggregate

theorem Scope.groupedProjection_columns (s : Scope) (g : Grouping) :
    (s.groupedProjection g).columns = g.columns.map (Column.map s.resolve) := by
  rw [groupedProjection, Grouping.columns, List.map_append, List.map_map, List.map_map,
    List.map_map]
  rfl

section Planning

variable {s : Scope} {name a field : Text} {spec : JoinSpec} {references expanded : List Text}

theorem Scope.joinAlias_of_declared (h : (name, spec) ∈ s.declaredJoins) :
    ∃ a, s.joinAlias? name = some a := by
  cases hl : s.declaredJoins.lookup name with
  | some spec => exact ⟨_, by rw [joinAlias?, hl]; rfl⟩
  | none =>
    have hne := List.lookup_eq_none_iff.mp hl _ h
    exact absurd hne (by simp)

theorem Scope.owner_iff : s.owner? field = some name ↔ s.schema.FirstDeclares name field := by
  unfold owner? Schema.FirstDeclares
  rw [Option.map_eq_some_iff]
  constructor
  · rintro ⟨⟨n, t⟩, hf, rfl⟩
    obtain ⟨ht, before, after, he, hb⟩ := List.find?_eq_some_iff_append.mp hf
    refine ⟨before, t, after, he, by simpa [Table.hasColumn] using ht, ?_⟩
    intro entry hm
    simpa [Table.hasColumn] using hb entry hm
  · rintro ⟨before, t, after, he, ht, hb⟩
    refine ⟨(name, t), List.find?_eq_some_iff_append.mpr ⟨?_, before, after, he, ?_⟩, rfl⟩
    · simpa [Table.hasColumn] using ht
    · intro entry hm
      simpa [Table.hasColumn] using hb entry hm

theorem Scope.reaches_of_owner (hd : '.' ∉ field) (ho : s.owner? field = some name)
    (hj : (name, spec) ∈ s.declaredJoins) : s.Reaches field := by
  refine ⟨hd, fun first hfirst => .inr ⟨spec, ?_⟩⟩
  rw [← owner_iff, ho, Option.some.injEq] at hfirst
  rw [← hfirst]
  exact hj

theorem Scope.resolve_of_owner (hd : '.' ∉ field) (ho : s.owner? field = some name) :
    s.resolve field = s.tableQualifier name ++ '.' :: field := by
  rw [resolve, if_neg hd, ho]

theorem Scope.tableQualifier_joined (hn : name ≠ s.table) (ha : s.joinAlias? name = some a) :
    s.tableQualifier name = a := by
  rw [tableQualifier, if_neg hn, ha]
  rfl

/-- A name within reach stays bare, or it gets the qualifier of the primary table or the alias of a
declared join. -/
theorem Scope.resolve_of_reaches (h : s.Reaches field) :
    s.resolve field = field ∨ s.resolve field = s.aliasName.getD s.table ++ '.' :: field ∨
      ∃ name a, s.joinAlias? name = some a ∧ s.resolve field = a ++ '.' :: field := by
  obtain ⟨hd, howner⟩ := h
  cases ho : s.owner? field with
  | none =>
    rw [resolve, if_neg hd, ho]
    dsimp only [defaultQualifier]
    cases s.aliasName with
    | none => exact .inl rfl
    | some a => exact .inr (.inl (List.append_assoc ..))
  | some name =>
    rw [resolve_of_owner hd ho]
    by_cases hn : name = s.table
    · rw [tableQualifier, if_pos hn, hn]
      exact .inr (.inl rfl)
    · -- The qualifier of the schema is the fall-back for tables out of reach only.
      obtain ⟨spec, hs⟩ := (howner name (owner_iff.mp ho)).resolve_left hn
      obtain ⟨a, ha⟩ := joinAlias_of_declared hs
      rw [tableQualifier_joined hn ha]
      exact .inr (.inr ⟨name, a, ha, rfl⟩)

/-- A join is planned where its relation is expanded or its alias is used. -/
theorem Scope.planned_of_needed (ha : s.joinAlias? name = some a)
    (h : name ∈ expanded ∨ a ∈ references.filterMap Name.qualifier?) :
    ∃ j ∈ s.plan references expanded, j.table = name ∧ j.aliasName = a := by
  obtain ⟨spec, hs, rfl⟩ := Option.map_eq_some_iff.mp ha
  refine ⟨⟨name, s.schema.joinQualifier name spec, spec⟩, List.mem_map.mpr
    ⟨(name, spec), List.mem_filter.mpr ⟨mem_of_lookup hs, ?_⟩, rfl⟩, rfl, rfl⟩
  simpa [needs] using h

end Planning

namespace Options.Stages

variable {o : Options} {given : Directives} (s : o.Stages given)

/-- The names of a statement by which its joins are planned. -/
def references : List Text :=
  s.projection.columns.map Column.reference ++ (s.filter.map Filter.fields).getD [] ++
    s.clauses.orderBy.map SortKey.field

/-- A name that qualifies a reference is introduced, where it is the alias of a declared join. -/
theorem introduced_joined {name a field : Text} (ha : o.scope.joinAlias? name = some a)
    (hd : '.' ∉ field) (hm : a ++ '.' :: field ∈ s.references) :
    a ∈ o.introduced s.statement.joins := by
  have hq : a ∈ s.references.filterMap Name.qualifier? :=
    List.mem_filterMap.mpr ⟨_, hm, Name.qualifier_append hd⟩
  obtain ⟨j, hj, _, rfl⟩ := Scope.planned_of_needed ha (.inr hq)
  exact List.mem_cons_of_mem _ (List.mem_map_of_mem hj)

/-- A name that is referred to has no dangling qualifier. -/
theorem shows_resolve {field : Text} (hm : o.scope.resolve field ∈ s.references) :
    o.Shows s.statement.joins field (o.scope.resolve field) := by
  refine ⟨rfl, fun hr => ?_⟩
  rcases Scope.resolve_of_reaches hr with h | h | ⟨name, a, ha, h⟩
  · exact .inl h
  · exact .inr ⟨_, List.mem_cons_self, h⟩
  · rw [h] at hm
    exact .inr ⟨a, s.introduced_joined ha hr.1 hm, h⟩

theorem column_reference {columns : List Column} {c : Column} {field : Text}
    (hs : columns.map (Column.map o.scope.resolve) ⊆ s.projection.columns) (hc : c ∈ columns)
    (hf : field ∈ c.field?) : o.scope.resolve field ∈ s.references := by
  apply List.mem_append_left
  apply List.mem_append_left
  rw [← Column.reference_map o.scope.resolve hf]
  exact List.mem_map_of_mem (hs (List.mem_map_of_mem hc))

theorem filter_reference {e : Filter} {field : Text}
    (hs : s.filter = some (e.mapFields o.scope.resolve)) (hf : field ∈ e.fields) :
    o.scope.resolve field ∈ s.references := by
  apply List.mem_append_left
  apply List.mem_append_right
  rw [hs, Option.map_some, Option.getD_some, Filter.fields_mapFields]
  exact List.mem_map_of_mem hf

theorem orderBy_reference {keys : List SortKey} {k : SortKey}
    (hs : s.clauses.orderBy = keys.map (SortKey.mapField o.scope.resolve)) (hk : k ∈ keys) :
    o.scope.resolve k.field ∈ s.references := by
  apply List.mem_append_right
  rw [hs, List.map_map]
  exact List.mem_map_of_mem hk

/-- An expanded table is joined, and its columns have the alias of the join. -/
theorem showsExpanded {e : Expansion} (he : e ∈ s.expansions) :
    o.ShowsExpanded s.statement.joins e ((o.scope.expansionColumns e).map Column.sql) := by
  obtain ⟨a, ha⟩ := s.expansions_joined e he
  obtain ⟨j, hj, ht, rfl⟩ : ∃ j ∈ s.statement.joins, j.table = e.table ∧ j.aliasName = a :=
    Scope.planned_of_needed ha (.inl (List.mem_map_of_mem he))
  refine ⟨j, hj, ht, ?_, fun f _ hd hn ho => ?_⟩
  · rw [Scope.expansionColumns, ha, List.map_map]
    rfl
  · rw [Scope.resolve_of_owner hd (Scope.owner_iff.mpr ho), Scope.tableQualifier_joined hn ha]

/-- Columns are written with their names as these are resolved. -/
theorem columns_written {columns : List Column}
    (hs : columns.map (Column.map o.scope.resolve) ⊆ s.projection.columns) :
    List.Forall₂ (Column.Written (o.Shows s.statement.joins)) columns
      ((columns.map (Column.map o.scope.resolve)).map Column.sql) := by
  rw [List.map_map]
  apply forall₂_map_of_mem
  intro c hc
  exact Column.written_map fun f hf => s.shows_resolve (s.column_reference hs hc hf)

theorem answers : (s.statement.clauseTexts o.style).Answers o given s.statement.joins where
  table := s.statement.tableText_eq
  joined := PlannedJoin.forall_written_iff.mpr rfl
  filter value hg := by
    obtain ⟨e, he, hf⟩ := s.filter_given hg
    refine ⟨e, _, he, congrArg (Option.map _) hf, Filter.written_mapFields (fun f hm => ?_) 1⟩
    exact s.shows_resolve (s.filter_reference hf hm)
  unfiltered hg := congrArg (Option.map _) (s.filter_absent hg)
  orderBy value hg := by
    obtain ⟨keys, hp, hk⟩ := s.orderBy_given hg
    have horder : (s.statement.clauseTexts o.style).orderBy =
        (keys.map (SortKey.mapField o.scope.resolve)).map SortKey.sql :=
      congrArg (List.map SortKey.sql) hk
    refine ⟨keys, hp, ?_⟩
    rw [horder, List.map_map]
    apply forall₂_map_of_mem
    intro k hm
    exact SortKey.written_mapField (s.shows_resolve (s.orderBy_reference hk hm))
  unordered hg := congrArg (List.map SortKey.sql) (s.orderBy_absent hg)
  grouped value hg := by
    obtain ⟨g, hp, hs⟩ := s.projection_grouped hg
    have hcolumns : s.projection.columns = g.columns.map (Column.map o.scope.resolve) := by
      rw [hs, Scope.groupedProjection_columns]
    have hsub : g.columns.map (Column.map o.scope.resolve) ⊆ s.projection.columns :=
      fun _ h => hcolumns ▸ h
    refine ⟨g, hp, ?_, ?_⟩
    · have hgroup : (s.statement.clauseTexts o.style).groupBy = g.fields.map o.scope.resolve :=
        congrArg Projection.groupBy hs
      rw [hgroup]
      apply forall₂_map_of_mem
      intro f hf
      have hc : Column.field f ∈ g.columns := List.mem_append_left _ (List.mem_map_of_mem hf)
      exact s.shows_resolve (s.column_reference hsub hc rfl)
    · have hwritten := s.columns_written hsub
      rw [← hcolumns] at hwritten
      exact hwritten
  plain hg := by
    obtain ⟨selected, hsel, hs⟩ := s.projection_plain hg
    obtain ⟨found, hf, hfound⟩ := s.expansions_read
    refine ⟨congrArg Projection.groupBy hs, selected.getD [.all], s.expansions,
      ((selected.getD [.all]).map (Column.map o.scope.resolve)).map Column.sql,
      s.expansions.map fun e => (o.scope.expansionColumns e).map Column.sql,
      fun value hv => ?_, fun hv => ?_, fun value hv => ?_, fun hv => ?_, ?_,
      s.columns_written fun _ h => ?_, ?_⟩
    · obtain ⟨columns, hp, rfl⟩ := Directives.read_given hsel hv
      exact hp
    · rw [Directives.read_absent hsel hv]
      rfl
    · obtain ⟨expansions, hp, rfl⟩ := Directives.read_given hf hv
      rw [hfound]
      exact hp
    · rw [hfound, Directives.read_absent hf hv]
      rfl
    · have hcolumns : (s.statement.clauseTexts o.style).columns =
          (o.scope.plainProjection selected s.expansions).columns.map Column.sql :=
        congrArg (fun p => p.columns.map Column.sql) hs
      rw [hcolumns, Scope.plainProjection, List.map_append, List.map_flatMap,
        List.flatMap_def]
    · rw [hs]
      exact List.mem_append_left _ h
    · exact forall₂_map_of_mem fun e he => s.showsExpanded he

end Options.Stages

/-- No name of a request has a dangling qualifier in its statement. The text of the statement names its
primary table and its joins with what they are called, and the names of the request stand in it
bare, or under one of these, unless the request qualifies them itself or they are out of reach. -/
theorem qualifiers_introduced {o : Options} {p : Params} {q : Query}
    (h : compileParams o p = .ok q) :
    ∃ (s : Statement) (c : ClauseTexts), o.statement p.directives = .ok s ∧
      q = .ofStatement o.style s ∧ q.sql = c.sql ∧ c.Answers o p.directives s.joins := by
  obtain ⟨s, hs, rfl⟩ := compileParams_eq_ok h
  obtain ⟨stages, rfl⟩ := Options.statement_eq_ok hs
  exact ⟨_, _, hs, rfl, stages.statement.sql_eq_clauseTexts o.style, stages.answers⟩

def Params.customersByCity : Params :=
  ⟨[("$orderby".toList, "city desc".toList), ("$expand".toList, "customers($select=name)".toList)]⟩

/-- A sort key brings in the join whose alias it gets, and an expanded column has the same alias. -/
theorem qualifiers_introduced_orders :
    ∃ (q : Query) (joins : List PlannedJoin) (c : ClauseTexts),
      compileParams .orders .customersByCity = .ok q ∧
      q = { sql := ("SELECT *, c.name FROM orders o LEFT JOIN customers c ON c.id = o.customer " ++
              "AND c.kind <> 'guest' ORDER BY c.city desc").toList
            params := [] } ∧
      q.sql = c.sql ∧ c.Answers .orders Params.customersByCity.directives joins ∧
      c.table = "orders o".toList ∧
      c.joins = ["LEFT JOIN customers c ON c.id = o.customer AND c.kind <> 'guest'".toList] ∧
      c.orderBy = ["c.city desc".toList] ∧
      (∃ a ∈ Options.orders.introduced joins, "c.city".toList = a ++ ".city".toList) ∧
      ∃ j ∈ joins, j.table = "customers".toList ∧
        Options.orders.scope.resolve "name".toList = j.aliasName ++ ".name".toList := by
  have h : compileParams .orders .customersByCity = .ok
      { sql := ("SELECT *, c.name FROM orders o LEFT JOIN customers c ON c.id = o.customer " ++
          "AND c.kind <> 'guest' ORDER BY c.city desc").toList
        params := [] } := by decide +kernel
  obtain ⟨s, c, hs, _, hsql, answers⟩ := qualifiers_introduced h
  have hjoins : s.joins = [⟨"customers".toList, "c".toList,
      { predicate := "c.id = o.customer AND c.kind <> 'guest'".toList }⟩] := by
    have hstatement : (Options.orders.statement Params.customersByCity.directives).map
        Statement.joins = .ok [⟨"customers".toList, "c".toList,
          { predicate := "c.id = o.customer AND c.kind <> 'guest'".toList }⟩] := by decide +kernel
    rw [hs] at hstatement
    exact Except.ok.inj hstatement
  have howner : ∀ field ∈ ["city".toList, "name".toList],
      Options.orders.scope.owner? field = some "customers".toList := by decide +kernel
  have hcity : Options.orders.scope.Reaches "city".toList :=
    Scope.reaches_of_owner (by decide) (howner _ (by simp)) List.mem_cons_self
  refine ⟨_, s.joins, c, h, rfl, hsql, answers, ?_, ?_, ?_⟩
  · rw [answers.table]
    decide +kernel
  · rw [PlannedJoin.forall_written_iff.mp answers.joined, hjoins]
    decide +kernel
  · obtain ⟨keys, hkeys, hwritten⟩ := answers.orderBy "city desc".toList (by decide +kernel)
    have hread : OrderBy.parse "city desc".toList =
        .ok [⟨"city".toList, some "desc".toList⟩] := by decide +kernel
    obtain rfl := Except.ok.inj (hread.symm.trans hkeys)
    obtain ⟨t, rest, hkey, hrest, htexts⟩ := List.forall₂_cons_left_iff.mp hwritten
    rw [htexts, List.forall₂_nil_left_iff.mp hrest]
    cases hkey with
    | directed hshown =>
      have hresolved : Options.orders.scope.resolve "city".toList = "c.city".toList := by
        decide +kernel
      obtain rfl := hshown.resolved.trans hresolved
      refine ⟨rfl, (hshown.introduced hcity).resolve_left (by decide), ?_⟩
      obtain ⟨_, _, expansions, _, others, _, _, hexpand, _, _, _, hexpanded⟩ :=
        answers.plain (by decide +kernel)
      have hparse : Expand.parse "customers($select=name)".toList =
          .ok [⟨"customers".toList, ["name".toList]⟩] := by decide +kernel
      obtain rfl := Except.ok.inj (hparse.symm.trans (hexpand _ (by decide +kernel)))
      obtain ⟨_, _, ⟨j, hj, ht, _, hname⟩, _, _⟩ := List.forall₂_cons_left_iff.mp hexpanded
      refine ⟨j, hj, ht, hname _ List.mem_cons_self (by decide) (by decide) ?_⟩
      exact Scope.owner_iff.mp (howner _ (by simp))

end RequestSql
