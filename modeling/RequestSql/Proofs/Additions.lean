import RequestSql.Proofs.Declarations
import RequestSql.Proofs.Joins

namespace RequestSql

section Renaming

variable {f g : Text → Text}

theorem Filter.mapFields_congr {e : Filter} (h : ∀ field ∈ e.fields, f field = g field) :
    e.mapFields f = e.mapFields g := by
  induction e with
  | comparison field op value => rw [mapFields, mapFields, h field List.mem_cons_self]
  | logical op left right ihl ihr =>
    obtain ⟨hl, hr⟩ := List.forall_mem_append.mp h
    rw [mapFields, mapFields, ihl hl, ihr hr]
  | not inner ih => rw [mapFields, mapFields, ih h]

theorem Column.map_congr {c : Column} (h : ∀ field ∈ c.field?, f field = g field) :
    c.map f = c.map g := by
  cases c with
  | all => rfl
  | field name => rw [map, map, h name rfl]
  | aggregate a =>
    obtain ⟨operand, function, aliasName⟩ := a
    cases operand with
    | rows => rfl
    | field name => rw [map, map, Operand.map, Operand.map, h name rfl]

end Renaming

/-- Scopes that have the primary table and its joins in common, and in which the names in use mean
the same. -/
structure Scope.Alike (s s' : Scope) (Used : Text → Prop) : Prop where
  table : s'.table = s.table
  aliasName : s'.aliasName = s.aliasName
  declaredJoins : s'.declaredJoins = s.declaredJoins
  joinQualifier : ∀ name spec, (name, spec) ∈ s.declaredJoins →
    s'.schema.joinQualifier name spec = s.schema.joinQualifier name spec
  resolve : ∀ field, Used field → s'.resolve field = s.resolve field

namespace Scope.Alike

variable {s s' : Scope} {Used : Text → Prop} (h : s.Alike s' Used)

include h

theorem joinAlias?_eq (relation : Text) : s'.joinAlias? relation = s.joinAlias? relation := by
  rw [joinAlias?, h.declaredJoins, joinAlias?]
  cases hl : s.declaredJoins.lookup relation with
  | none => rfl
  | some spec =>
    rw [Option.map_some, Option.map_some, h.joinQualifier relation spec (mem_of_lookup hl)]

theorem plan_eq (references expanded : List Text) :
    s'.plan references expanded = s.plan references expanded := by
  rw [plan, h.declaredJoins, plan]
  have hneeds : ∀ entry ∈ s.declaredJoins, s'.needs references expanded entry.1 entry.2 =
      s.needs references expanded entry.1 entry.2 := by
    intro entry hm
    rw [needs, needs, h.joinQualifier entry.1 entry.2 hm]
  rw [List.filter_congr hneeds]
  refine List.map_congr_left fun entry hm => ?_
  dsimp only
  rw [h.joinQualifier entry.1 entry.2 (List.mem_filter.mp hm).1]

theorem checkRelations_eq (expansions : List Expansion) :
    s'.checkRelations expansions = s.checkRelations expansions := by
  induction expansions with
  | nil => rfl
  | cons e rest ih =>
    rw [checkRelations, h.joinAlias?_eq, h.table, ih]
    rfl

theorem expansionColumns_eq : s'.expansionColumns = s.expansionColumns := by
  funext e
  rw [expansionColumns, h.joinAlias?_eq, expansionColumns]

theorem map_columns {columns : List Column} (hc : ∀ c ∈ columns, ∀ field ∈ c.field?, Used field) :
    columns.map (Column.map s'.resolve) = columns.map (Column.map s.resolve) := by
  refine List.map_congr_left fun c hm => Column.map_congr fun field hf => ?_
  exact h.resolve field (hc c hm field hf)

theorem groupedProjection_eq {g : Grouping} (hg : ∀ c ∈ g.columns, ∀ field ∈ c.field?, Used field) :
    s'.groupedProjection g = s.groupedProjection g := by
  have hkeys : g.fields.map s'.resolve = g.fields.map s.resolve := by
    refine List.map_congr_left fun field hf => h.resolve field ?_
    exact hg (.field field) (List.mem_append_left _ (List.mem_map_of_mem hf)) field rfl
  have hcolumns := h.map_columns hg
  rw [← groupedProjection_columns, ← groupedProjection_columns] at hcolumns
  exact congrArg₂ Projection.mk hcolumns hkeys

end Scope.Alike

theorem Directives.read_congr {α : Type} {given : Directives} {d : Directive}
    {parse parse' : Text → Except CompileError α}
    (h : ∀ value, given d = some value → parse' value = parse value) :
    given.read d parse' = given.read d parse := by
  cases hg : given d with
  | none => simp only [read, hg]
  | some value => simp only [read, hg, h value hg]

namespace Options

variable {o o' : Options} {given : Directives} (h : o.scope.Alike o'.scope given.Names)

include h

theorem projection_congr (expansions : List Expansion) :
    o'.projection given expansions = o.projection given expansions := by
  unfold projection
  split
  · rename_i value hg
    cases hp : Apply.parse value with
    | error e => rfl
    | ok g =>
      exact congrArg Except.ok (h.groupedProjection_eq fun c hc field hf => .grouped hg hp hc hf)
  · rename_i ha
    cases hr : given.read .select Select.parse with
    | error e => rfl
    | ok selected =>
      have hcolumns : (selected.getD [.all]).map (Column.map o'.scope.resolve) =
          (selected.getD [.all]).map (Column.map o.scope.resolve) := by
        cases hg : given .select with
        | none =>
          rw [Directives.read_absent hr hg]
          rfl
        | some value =>
          obtain ⟨columns, hp, rfl⟩ := Directives.read_given hr hg
          exact h.map_columns fun c hc field hf => .selected ha hg hp hc hf
      refine congrArg Except.ok ?_
      rw [Scope.plainProjection, hcolumns, h.expansionColumns_eq, Scope.plainProjection]

theorem parseFilter_congr {value : Text} (hg : given .filter = some value) :
    o'.parseFilter value = o.parseFilter value := by
  unfold parseFilter
  cases hp : Filter.parse value with
  | error e => rfl
  | ok e =>
    refine congrArg Except.ok (Filter.mapFields_congr fun field hf => ?_)
    exact h.resolve field (.filter hg hp hf)

theorem parseOrderBy_congr {value : Text} (hg : given .orderBy = some value) :
    o'.parseOrderBy value = o.parseOrderBy value := by
  unfold parseOrderBy
  cases hp : OrderBy.parse value with
  | error e => rfl
  | ok keys =>
    refine congrArg Except.ok (List.map_congr_left fun k hk => ?_)
    rw [SortKey.mapField, SortKey.mapField, h.resolve k.field (.orderBy hg hp hk)]

/-- A request has one statement, or one error, in scopes that agree on what it names. -/
theorem statement_congr : o'.statement given = o.statement given := by
  have htable : o'.table = o.table := h.table
  have halias : o'.effectiveAlias = o.effectiveAlias := h.aliasName
  have hcheck : o'.check = o.check := by
    simp only [check, htable, halias]
  have hexpansions : o'.expansions given = o.expansions given := by
    simp only [expansions, h.checkRelations_eq]
  have hfilter : given.read .filter o'.parseFilter = given.read .filter o.parseFilter :=
    Directives.read_congr fun value hg => parseFilter_congr h hg
  have horderBy : given.read .orderBy o'.parseOrderBy = given.read .orderBy o.parseOrderBy :=
    Directives.read_congr fun value hg => parseOrderBy_congr h hg
  have hassemble : o'.assemble = o.assemble := by
    funext expansions p filter c
    simp only [assemble, htable, halias, h.plan_eq]
  simp only [statement, clauses, hcheck, hexpansions, projection_congr h, hfilter, horderBy,
    hassemble]

end Options

def Options.withTable (o : Options) (name : Text) (t : Table) : Options :=
  { o with schema := o.schema.table name t }

section Additions

variable {s : Schema} {o : Options} {name other : Text} {t : Table}

/-- A new table stands after all others. -/
theorem Schema.entries_table (h : name ∉ s.tables.names) :
    (s.table name t).tables.entries = s.tables.entries ++ [(name, t)] :=
  NameMap.insertEntry_of_not_mem h

theorem Schema.get?_table (h : other ≠ name) : (s.table name t).get? other = s.get? other := by
  rw [get?, NameMap.get?, table, NameMap.insert, NameMap.lookup_insertEntry, if_neg h]
  rfl

theorem Schema.qualifier_table (h : other ≠ name) :
    (s.table name t).qualifier other = s.qualifier other := by
  rw [qualifier, get?_table h, qualifier]

theorem Schema.joinQualifier_table (h : other ≠ name) :
    (s.table name t).joinQualifier other = s.joinQualifier other := by
  funext spec
  rw [joinQualifier, qualifier_table h, joinQualifier]

theorem Options.effectiveAlias_withTable (h : o.table ≠ name) :
    (o.withTable name t).effectiveAlias = o.effectiveAlias := by
  rw [effectiveAlias, withTable, Schema.get?_table h, effectiveAlias]

theorem Options.declaredJoins_withTable (h : o.table ≠ name) :
    (o.withTable name t).scope.declaredJoins = o.scope.declaredJoins := by
  simp only [Scope.declaredJoins, scope, withTable, Schema.get?_table h]

/-- Every other table is called what it was called before. -/
theorem Options.tableQualifier_withTable (h : o.table ≠ name) (hother : other ≠ name) :
    (o.withTable name t).scope.tableQualifier other = o.scope.tableQualifier other := by
  have hjoin : (o.withTable name t).scope.joinAlias? other = o.scope.joinAlias? other := by
    rw [Scope.joinAlias?, declaredJoins_withTable h, Scope.joinAlias?]
    exact congrArg (Option.map · _) (Schema.joinQualifier_table hother)
  have hqualifier : (o.withTable name t).scope.schema.qualifier other =
      o.scope.schema.qualifier other := Schema.qualifier_table hother
  have halias : (o.withTable name t).scope.aliasName = o.scope.aliasName :=
    effectiveAlias_withTable h
  rw [Scope.tableQualifier, hjoin, hqualifier, halias, Scope.tableQualifier]
  rfl

/-- A name that a table before the new one declares, or that the new one does not, keeps the table
that is the first to declare it. -/
theorem Options.owner?_withTable (hnew : name ∉ o.schema.tables.names) {field : Text}
    (h : field ∈ t.columns → ∃ entry ∈ o.schema.tables.entries, field ∈ entry.2.columns) :
    (o.withTable name t).scope.owner? field = o.scope.owner? field := by
  rw [Scope.owner?, scope, withTable, Schema.entries_table hnew, List.find?_append, Scope.owner?]
  cases hf : o.schema.tables.entries.find? fun entry => entry.2.hasColumn field with
  | some entry => simp [scope, hf]
  | none =>
    have hcolumn : t.hasColumn field = false := by
      rw [← Bool.not_eq_true, Table.hasColumn, List.contains_iff_mem]
      intro hm
      obtain ⟨entry, he, hfield⟩ := h hm
      have hnone := List.find?_eq_none.mp hf entry he
      exact hnone (by simpa [Table.hasColumn] using hfield)
    simp [scope, hf, hcolumn]

theorem Options.resolve_withTable (hnew : name ∉ o.schema.tables.names) (htable : o.table ≠ name)
    {field : Text} (h : '.' ∉ field → field ∈ t.columns →
      ∃ entry ∈ o.schema.tables.entries, field ∈ entry.2.columns) :
    (o.withTable name t).scope.resolve field = o.scope.resolve field := by
  unfold Scope.resolve
  split
  · rfl
  · rename_i hpoint
    rw [owner?_withTable hnew (h hpoint)]
    cases ho : o.scope.owner? field with
    | none =>
      have halias : (o.withTable name t).scope.aliasName = o.scope.aliasName :=
        effectiveAlias_withTable htable
      simp only [Scope.defaultQualifier, halias]
    | some owner =>
      obtain ⟨u, hm⟩ := Scope.owner_mem ho
      have howner : owner ≠ name := fun he => hnew (he ▸ List.mem_map_of_mem hm)
      simp only [tableQualifier_withTable htable howner]

/-- A new table leaves the scope as it is, but for names that it alone declares. -/
theorem Options.alike_withTable {Used : Text → Prop} (hnew : name ∉ o.schema.tables.names)
    (htable : name ≠ o.table) (hjoin : ∀ spec, (name, spec) ∉ o.scope.declaredJoins)
    (hused : ∀ field, Used field → '.' ∉ field → field ∈ t.columns →
      ∃ entry ∈ o.schema.tables.entries, field ∈ entry.2.columns) :
    o.scope.Alike (o.withTable name t).scope Used where
  table := rfl
  aliasName := effectiveAlias_withTable htable.symm
  declaredJoins := declaredJoins_withTable htable.symm
  joinQualifier other spec hm := by
    have hother : other ≠ name := fun he => hjoin spec (he ▸ hm)
    exact congrFun (Schema.joinQualifier_table hother) spec
  resolve field hf := resolve_withTable hnew htable.symm (hused field hf)

end Additions

/-- A table that is new to the schema, is not the primary table and is not joined to it stands after
all others, and no request has another outcome because of it, unless a name in the request is a
column of that table only. -/
theorem compileParams_withTable {o : Options} {p : Params} {name : Text} {t : Table}
    (hnew : name ∉ o.schema.tables.names) (htable : name ≠ o.table)
    (hjoin : ∀ spec, (name, spec) ∉ o.scope.declaredJoins)
    (hnames : ∀ field, p.directives.Names field → '.' ∉ field → field ∈ t.columns →
      ∃ entry ∈ o.schema.tables.entries, field ∈ entry.2.columns) :
    (o.withTable name t).schema.tables.entries = o.schema.tables.entries ++ [(name, t)] ∧
      compileParams (o.withTable name t) p = compileParams o p := by
  refine ⟨Schema.entries_table hnew, ?_⟩
  rw [compileParams, Options.statement_congr (Options.alike_withTable hnew htable hjoin hnames),
    compileParams]
  rfl

def Table.returns : Table :=
  { columns := ["id".toList, "reason".toList] }

/-- Sorting by the column that both tables have still means the orders, which come first. -/
theorem compileParams_withTable_returns :
    "returns".toList ∉ Options.orders.schema.tables.names ∧
      compileParams (Options.orders.withTable "returns".toList .returns)
        ⟨[("$orderby".toList, "id desc".toList), ("$expand".toList, "customers".toList)]⟩ = .ok
        { sql := ("SELECT * FROM orders o LEFT JOIN customers c ON c.id = o.customer AND " ++
            "c.kind <> 'guest' ORDER BY o.id desc").toList
          params := [] } := by
  have hnew : "returns".toList ∉ Options.orders.schema.tables.names := by decide +kernel
  have hjoin : ∀ spec, ("returns".toList, spec) ∉ Options.orders.scope.declaredJoins := by
    intro spec hm
    have hname : "returns".toList ∈ Options.orders.scope.declaredJoins.map Prod.fst :=
      List.mem_map_of_mem hm
    exact absurd hname (by decide +kernel)
  have hnames : ∀ field, Directives.Names (Params.directives
      ⟨[("$orderby".toList, "id desc".toList), ("$expand".toList, "customers".toList)]⟩) field →
      '.' ∉ field → field ∈ Table.returns.columns →
      ∃ entry ∈ Options.orders.schema.tables.entries, field ∈ entry.2.columns := by
    intro field hn _ _
    cases hn with
    | filter hg _ _ => cases hg
    | grouped hg _ _ _ => cases hg
    | selected _ hg _ _ _ => cases hg
    | orderBy hg hp hk =>
      cases hg
      have hread : OrderBy.parse "id desc".toList =
          .ok [⟨"id".toList, some "desc".toList⟩] := by decide +kernel
      obtain rfl := Except.ok.inj (hread.symm.trans hp)
      obtain rfl := List.mem_singleton.mp hk
      exact ⟨_, List.mem_cons_self, by decide⟩
  obtain ⟨_, hsame⟩ := compileParams_withTable hnew (by decide) hjoin hnames
  exact ⟨hnew, hsame.trans (by decide +kernel)⟩

end RequestSql
