import Mathlib.Data.List.Nodup
import RequestSql.Proofs.Qualifiers

namespace RequestSql

def Scope.unjoined (s : Scope) : List Text :=
  s.schema.tables.names.filter fun name =>
    name != s.table && !(s.declaredJoins.map Prod.fst).contains name

/-- What names can be qualified with: the primary table's qualifier, the aliases of the declared
joins, and the qualifiers of the other tables. -/
def Scope.qualifiers (s : Scope) : List Text :=
  s.aliasName.getD s.table ::
    ((s.declaredJoins.map fun (name, spec) => s.schema.joinQualifier name spec) ++
      s.unjoined.map s.schema.qualifier)

namespace Directives

def Expands (given : Directives) (e : Expansion) : Prop :=
  ∃ value expansions, given .expand = some value ∧ Expand.parse value = .ok expansions ∧
    e ∈ expansions

/-- A field that is filtered, sorted, grouped, aggregated or selected by. A grouping takes the
place of a selection. -/
inductive Names (given : Directives) : Text → Prop where
  | filter {value e field} (hg : given .filter = some value) (hp : Filter.parse value = .ok e)
      (hf : field ∈ e.fields) : Names given field
  | orderBy {value keys k} (hg : given .orderBy = some value)
      (hp : OrderBy.parse value = .ok keys) (hk : k ∈ keys) : Names given k.field
  | grouped {value g c field} (hg : given .apply = some value) (hp : Apply.parse value = .ok g)
      (hc : c ∈ g.columns) (hf : field ∈ c.field?) : Names given field
  | selected {value columns c field} (ha : given .apply = none) (hg : given .select = some value)
      (hp : Select.parse value = .ok columns) (hc : c ∈ columns) (hf : field ∈ c.field?) :
      Names given field

/-- A field that a directive puts into the statement. The columns of expanded tables are there
unless a grouping takes their place. -/
def Renders (given : Directives) (field : Text) : Prop :=
  given.Names field ∨ given .apply = none ∧ ∃ e, given.Expands e ∧ field ∈ e.selects

inductive Requires (given : Directives) (s : Scope) (relation aliasName : Text) : Prop where
  | expanded {e} (he : given.Expands e) (ht : e.table = relation)
  /-- The alias is all that stands before the last point of a name. -/
  | qualified {last} (hr : given.Renders (aliasName ++ '.' :: last)) (hl : '.' ∉ last)
  | owned {field} (hn : given.Names field) (hd : '.' ∉ field)
      (ho : s.schema.FirstDeclares relation field) (ht : relation ≠ s.table)

end Directives

section Cutting

variable {sep : Char} {t u v : Text}

theorem Text.not_mem_of_cutLast (h : cutLast sep t = none) : sep ∉ t := by
  intro hm
  obtain ⟨u, v, rfl⟩ := List.append_of_mem hm
  clear hm
  induction u with
  | nil =>
    rw [List.nil_append, cutLast] at h
    split at h
    · cases h
    · rw [if_pos rfl] at h
      cases h
  | cons c u ih =>
    rw [List.cons_append, cutLast] at h
    split at h
    · cases h
    · rename_i hnone
      exact ih hnone

/-- A text is put together again from where it was cut. -/
theorem Text.eq_of_cutLast (h : cutLast sep t = some (u, v)) : t = u ++ sep :: v ∧ sep ∉ v := by
  induction t generalizing u with
  | nil => cases h
  | cons c t ih =>
    unfold cutLast at h
    split at h
    · rename_i before after hc
      cases h
      obtain ⟨rfl, hv⟩ := ih hc
      exact ⟨rfl, hv⟩
    · rename_i hnone
      split at h
      · rename_i hsep
        cases h
        exact ⟨by rw [hsep]; rfl, not_mem_of_cutLast hnone⟩
      · cases h

/-- A qualifier is all that stands before the last point. -/
theorem Name.qualifier_eq_some_iff :
    qualifier? t = some u ↔ ∃ last, t = u ++ '.' :: last ∧ '.' ∉ last := by
  constructor
  · intro h
    obtain ⟨⟨before, last⟩, hc, rfl⟩ := Option.map_eq_some_iff.mp h
    exact ⟨last, Text.eq_of_cutLast hc⟩
  · rintro ⟨last, rfl, hl⟩
    exact qualifier_append hl

end Cutting

section Ownership

variable {s : Scope} {name field : Text} {spec : JoinSpec}

/-- The primary table declares at most one join to a relation. -/
theorem Scope.nodup_declaredJoins (s : Scope) : (s.declaredJoins.map Prod.fst).Nodup := by
  unfold declaredJoins
  split
  · rename_i t _
    exact t.joins.nodup
  · simp

theorem Scope.joinAlias_declared (h : (name, spec) ∈ s.declaredJoins) :
    s.joinAlias? name = some (s.schema.joinQualifier name spec) := by
  obtain ⟨a, ha⟩ := joinAlias_of_declared h
  obtain ⟨found, hl, rfl⟩ := Option.map_eq_some_iff.mp ha
  have heq : (name, found) = (name, spec) :=
    List.inj_on_of_nodup_map s.nodup_declaredJoins (mem_of_lookup hl) h rfl
  cases heq
  exact ha

end Ownership

section Distinction

variable {s : Scope} {name relation field : Text} {spec : JoinSpec} (hd : s.qualifiers.Nodup)
  (hj : (relation, spec) ∈ s.declaredJoins)

include hd hj

/-- The alias of a join is not what the primary table is called. -/
theorem Scope.joinQualifier_ne_primary :
    s.aliasName.getD s.table ≠ s.schema.joinQualifier relation spec := by
  intro h
  have hmem : s.schema.joinQualifier relation spec ∈
      s.declaredJoins.map fun (name, spec) => s.schema.joinQualifier name spec :=
    List.mem_map_of_mem hj
  have hnot := (List.nodup_cons.mp hd).1
  exact hnot (List.mem_append_left _ (h ▸ hmem))

/-- Two joins do not have the same alias. -/
theorem Scope.relation_of_joinAlias
    (ha : s.joinAlias? name = some (s.schema.joinQualifier relation spec)) : name = relation := by
  obtain ⟨found, hl, heq⟩ := Option.map_eq_some_iff.mp ha
  have hnodup := (List.nodup_append.mp (List.nodup_cons.mp hd).2).1
  have hsame : (name, found) = (relation, spec) :=
    List.inj_on_of_nodup_map hnodup (mem_of_lookup hl) hj heq
  exact congrArg Prod.fst hsame

/-- A table that is not joined is not called by the alias of a join. -/
theorem Scope.joinQualifier_ne_unjoined (hn : name ≠ s.table) (ha : s.joinAlias? name = none)
    (hm : name ∈ s.schema.tables.names) :
    s.schema.qualifier name ≠ s.schema.joinQualifier relation spec := by
  intro h
  have hfree : name ∉ s.declaredJoins.map Prod.fst := by
    intro hmem
    obtain ⟨⟨n, found⟩, hf, rfl⟩ := List.mem_map.mp hmem
    rw [joinAlias_declared hf] at ha
    cases ha
  have hother : name ∈ s.unjoined := by
    apply List.mem_filter.mpr
    exact ⟨hm, by simpa [hn] using hfree⟩
  have hjoin : s.schema.joinQualifier relation spec ∈
      s.declaredJoins.map fun (name, spec) => s.schema.joinQualifier name spec :=
    List.mem_map_of_mem hj
  have hdisjoint := (List.nodup_append.mp (List.nodup_cons.mp hd).2).2.2
  exact hdisjoint _ hjoin _ (List.mem_map_of_mem hother) h.symm

/-- A name gets the alias of a join from the relation that is the first to declare it, and from
nowhere else. -/
theorem Scope.resolve_joined_iff (hp : '.' ∉ field) :
    Name.qualifier? (s.resolve field) = some (s.schema.joinQualifier relation spec) ↔
      s.schema.FirstDeclares relation field ∧ relation ≠ s.table := by
  rw [← owner_iff]
  cases ho : s.owner? field with
  | none =>
    -- A name that nobody declares stays bare or goes to the primary table.
    have hne : Name.qualifier? (s.resolve field) ≠
        some (s.schema.joinQualifier relation spec) := by
      rw [resolve, if_neg hp, ho]
      dsimp only [defaultQualifier]
      cases ha : s.aliasName with
      | none =>
        rw [List.nil_append, Name.qualifier?, Text.cutLast_eq_none hp]
        simp
      | some a =>
        rw [List.append_assoc, List.singleton_append, Name.qualifier_append hp]
        have hprimary := joinQualifier_ne_primary hd hj
        rw [ha] at hprimary
        simpa using hprimary
    simp [hne]
  | some name =>
    rw [resolve_of_owner hp ho, Name.qualifier_append hp, Option.some.injEq, Option.some.injEq]
    obtain ⟨t, ht⟩ := owner_mem ho
    have hm : name ∈ s.schema.tables.names := List.mem_map_of_mem ht
    constructor
    · intro h
      by_cases hn : name = s.table
      · rw [tableQualifier, if_pos hn, hn] at h
        exact absurd h (joinQualifier_ne_primary hd hj)
      · cases ha : s.joinAlias? name with
        | none =>
          rw [tableQualifier, if_neg hn, ha] at h
          exact absurd h (joinQualifier_ne_unjoined hd hj hn ha hm)
        | some a =>
          rw [tableQualifier_joined hn ha] at h
          rw [h] at ha
          obtain rfl := relation_of_joinAlias hd hj ha
          exact ⟨rfl, hn⟩
    · rintro ⟨rfl, hn⟩
      exact tableQualifier_joined hn (joinAlias_declared hj)

end Distinction

section Planning

variable {s : Scope} {name : Text} {spec : JoinSpec} {references expanded : List Text}

/-- The joins planned are declared ones, in the order of their declaration. -/
theorem Scope.plan_sublist (s : Scope) (references expanded : List Text) :
    (s.plan references expanded).Sublist
      (s.declaredJoins.map fun (name, spec) => ⟨name, s.schema.joinQualifier name spec, spec⟩) :=
  List.filter_sublist.map _

theorem Scope.nodup_plan (s : Scope) (references expanded : List Text) :
    ((s.plan references expanded).map PlannedJoin.table).Nodup := by
  have hsub := (s.plan_sublist references expanded).map PlannedJoin.table
  rw [List.map_map] at hsub
  exact s.nodup_declaredJoins.sublist hsub

/-- A declared join is planned exactly where its relation is expanded or its alias is used. -/
theorem Scope.planned_iff (hj : (name, spec) ∈ s.declaredJoins) :
    (∃ j ∈ s.plan references expanded, j.table = name) ↔
      name ∈ expanded ∨
        s.schema.joinQualifier name spec ∈ references.filterMap Name.qualifier? := by
  constructor
  · rintro ⟨j, hm, rfl⟩
    obtain ⟨⟨n, found⟩, hf, rfl⟩ := List.mem_map.mp hm
    obtain ⟨hdeclared, hneeds⟩ := List.mem_filter.mp hf
    have hsame : (n, found) = (n, spec) :=
      List.inj_on_of_nodup_map s.nodup_declaredJoins hdeclared hj rfl
    cases hsame
    simpa [needs] using hneeds
  · intro h
    obtain ⟨j, hm, ht, _⟩ := planned_of_needed (joinAlias_declared hj) h
    exact ⟨j, hm, ht⟩

end Planning

theorem Column.reference_of_no_field {c : Column} (f : Text → Text) (h : c.field? = none) :
    (c.map f).reference = ['*'] := by
  cases c with
  | all => rfl
  | field name => cases h
  | aggregate a =>
    obtain ⟨operand, function, aliasName⟩ := a
    cases operand with
    | rows => rfl
    | field name => cases h

namespace Options.Stages

variable {o : Options} {given : Directives} (s : o.Stages given)

theorem expands_iff {e : Expansion} : given.Expands e ↔ e ∈ s.expansions := by
  obtain ⟨found, hf, he⟩ := s.expansions_read
  rw [he]
  cases hg : given .expand with
  | none =>
    rw [Directives.read_absent hf hg]
    simp [Directives.Expands, hg]
  | some value =>
    obtain ⟨expansions, hp, rfl⟩ := Directives.read_given hf hg
    constructor
    · rintro ⟨value', expansions', hg', hp', hm⟩
      rw [hg] at hg'
      cases hg'
      rw [hp] at hp'
      cases hp'
      exact hm
    · intro hm
      exact ⟨value, expansions, hg, hp, hm⟩

/-- Every field that a directive names is referred to. -/
theorem names_reference {field : Text} (h : given.Names field) :
    o.scope.resolve field ∈ s.references := by
  cases h with
  | filter hg hp hf =>
    obtain ⟨e, he, hs⟩ := s.filter_given hg
    rw [hp] at he
    cases he
    exact s.filter_reference hs hf
  | orderBy hg hp hk =>
    obtain ⟨keys, he, hs⟩ := s.orderBy_given hg
    rw [hp] at he
    cases he
    exact s.orderBy_reference hs hk
  | grouped hg hp hc hf =>
    obtain ⟨g, he, hs⟩ := s.projection_grouped hg
    rw [hp] at he
    cases he
    refine s.column_reference (fun _ h => ?_) hc hf
    rw [hs, Scope.groupedProjection_columns]
    exact h
  | selected ha hg hp hc hf =>
    obtain ⟨selected, hr, hs⟩ := s.projection_plain ha
    obtain ⟨columns, he, rfl⟩ := Directives.read_given hr hg
    rw [hp] at he
    cases he
    refine s.column_reference (fun _ h => ?_) hc hf
    rw [hs]
    exact List.mem_append_left _ h

/-- A column of an expanded table is referred to, unless rows are grouped. -/
theorem expansion_reference {e : Expansion} {field : Text} (ha : given .apply = none)
    (he : e ∈ s.expansions) (hf : field ∈ e.selects) (hd : '.' ∈ field) :
    field ∈ s.references := by
  obtain ⟨selected, _, hs⟩ := s.projection_plain ha
  apply List.mem_append_left
  apply List.mem_append_left
  have hcolumn : Column.field field ∈ o.scope.expansionColumns e := by
    apply List.mem_map.mpr
    exact ⟨field, hf, by rw [if_pos hd]⟩
  rw [hs]
  refine List.mem_map.mpr ⟨.field field, List.mem_append_right _ ?_, rfl⟩
  exact List.mem_flatMap.mpr ⟨e, he, hcolumn⟩

/-- A column by which the rows are projected comes from a name, or from an expanded table. -/
theorem column_cases {c : Column} {a : Text} (hc : c ∈ s.projection.columns)
    (hq : Name.qualifier? c.reference = some a) :
    (∃ field, given.Names field ∧ c.reference = o.scope.resolve field) ∨
      given .apply = none ∧ ∃ e ∈ s.expansions, c ∈ o.scope.expansionColumns e := by
  -- An asterisk has no qualifier, so a column that is mapped is one with a field.
  have hmapped : ∀ b : Column, c = b.map o.scope.resolve →
      ∃ field ∈ b.field?, c.reference = o.scope.resolve field := by
    rintro b rfl
    cases hb : b.field? with
    | none =>
      rw [Column.reference_of_no_field o.scope.resolve hb] at hq
      cases hq
    | some field => exact ⟨field, rfl, Column.reference_map o.scope.resolve hb⟩
  cases ha : given .apply with
  | some value =>
    obtain ⟨g, hp, hs⟩ := s.projection_grouped ha
    rw [hs, Scope.groupedProjection_columns] at hc
    obtain ⟨b, hb, hbc⟩ := List.mem_map.mp hc
    obtain ⟨field, hf, href⟩ := hmapped b hbc.symm
    exact .inl ⟨field, .grouped ha hp hb hf, href⟩
  | none =>
    obtain ⟨selected, hr, hs⟩ := s.projection_plain ha
    rw [hs] at hc
    rcases List.mem_append.mp hc with hc | hc
    · obtain ⟨b, hb, hbc⟩ := List.mem_map.mp hc
      obtain ⟨field, hf, href⟩ := hmapped b hbc.symm
      cases hg : given .select with
      | none =>
        rw [Directives.read_absent hr hg] at hb
        cases List.mem_singleton.mp hb
        cases hf
      | some value =>
        obtain ⟨columns, hp, rfl⟩ := Directives.read_given hr hg
        exact .inl ⟨field, .selected ha hg hp hb hf, href⟩
    · obtain ⟨e, he, hce⟩ := List.mem_flatMap.mp hc
      exact .inr ⟨rfl, e, he, hce⟩

/-- What is referred to under a qualifier is a field that a directive names, or a column of an
expanded table. -/
theorem reference_cases {r a : Text} (hm : r ∈ s.references) (hq : Name.qualifier? r = some a) :
    (∃ field, given.Names field ∧ r = o.scope.resolve field) ∨
      given .apply = none ∧ ∃ e ∈ s.expansions, .field r ∈ o.scope.expansionColumns e := by
  rcases List.mem_append.mp hm with hm | hm
  · rcases List.mem_append.mp hm with hm | hm
    · obtain ⟨c, hc, rfl⟩ := List.mem_map.mp hm
      rcases s.column_cases hc hq with h | ⟨ha, e, he, hce⟩
      · exact .inl h
      · obtain ⟨field, _, rfl⟩ := List.mem_map.mp hce
        exact .inr ⟨ha, e, he, hce⟩
    · cases hg : given .filter with
      | none =>
        rw [s.filter_absent hg] at hm
        cases hm
      | some value =>
        obtain ⟨e, hp, hs⟩ := s.filter_given hg
        rw [hs, Option.map_some, Option.getD_some, Filter.fields_mapFields] at hm
        obtain ⟨field, hf, rfl⟩ := List.mem_map.mp hm
        exact .inl ⟨field, .filter hg hp hf, rfl⟩
  · cases hg : given .orderBy with
    | none =>
      rw [s.orderBy_absent hg] at hm
      cases hm
    | some value =>
      obtain ⟨keys, hp, hs⟩ := s.orderBy_given hg
      rw [hs, List.map_map] at hm
      obtain ⟨k, hk, rfl⟩ := List.mem_map.mp hm
      exact .inl ⟨k.field, .orderBy hg hp hk, rfl⟩

end Options.Stages

/-- Where qualifiers tell the tables apart, the join to a relation is planned exactly where the
request needs it. -/
theorem Options.Stages.joined_iff {o : Options} {given : Directives} (s : o.Stages given)
    {relation : Text} {spec : JoinSpec} (hd : o.scope.qualifiers.Nodup)
    (hj : (relation, spec) ∈ o.scope.declaredJoins) :
    (∃ j ∈ s.statement.joins, j.table = relation) ↔
      given.Requires o.scope relation (o.schema.joinQualifier relation spec) := by
  have hplan : (∃ j ∈ s.statement.joins, j.table = relation) ↔
      relation ∈ s.expansions.map Expansion.table ∨
        o.schema.joinQualifier relation spec ∈ s.references.filterMap Name.qualifier? :=
    Scope.planned_iff hj
  rw [hplan]
  constructor
  · rintro (hm | hm)
    · obtain ⟨e, he, ht⟩ := List.mem_map.mp hm
      exact .expanded (s.expands_iff.mpr he) ht
    · obtain ⟨r, hr, hq⟩ := List.mem_filterMap.mp hm
      rcases s.reference_cases hr hq with ⟨field, hn, rfl⟩ | ⟨ha, e, he, hc⟩
      · by_cases hp : '.' ∈ field
        · rw [Scope.resolve, if_pos hp] at hq
          obtain ⟨last, rfl, hl⟩ := Name.qualifier_eq_some_iff.mp hq
          exact .qualified (.inl hn) hl
        · obtain ⟨ho, ht⟩ := (Scope.resolve_joined_iff hd hj hp).mp hq
          exact .owned hn hp ho ht
      · obtain ⟨field, hf, hfield⟩ := List.mem_map.mp hc
        cases hfield
        split at hq
        · obtain ⟨last, rfl, hl⟩ := Name.qualifier_eq_some_iff.mp hq
          exact .qualified (.inr ⟨ha, e, s.expands_iff.mpr he, hf⟩) hl
        · -- The column got the alias of its own table, so that table is the relation.
          rename_i hp
          obtain ⟨a, hja⟩ := s.expansions_joined e he
          rw [hja, Option.getD_some, Name.qualifier_append hp, Option.some.injEq] at hq
          rw [hq] at hja
          exact .expanded (s.expands_iff.mpr he) (Scope.relation_of_joinAlias hd hj hja)
  · intro h
    cases h with
    | expanded he ht => exact .inl (List.mem_map.mpr ⟨_, s.expands_iff.mp he, ht⟩)
    | @qualified last hr hl =>
      have hp : '.' ∈ o.schema.joinQualifier relation spec ++ '.' :: last :=
        List.mem_append_cons_self
      have hq := Name.qualifier_append (u := o.schema.joinQualifier relation spec) hl
      right
      rcases hr with hn | ⟨ha, e, he, hf⟩
      · have hm := s.names_reference hn
        rw [Scope.resolve, if_pos hp] at hm
        exact List.mem_filterMap.mpr ⟨_, hm, hq⟩
      · have hm := s.expansion_reference ha (s.expands_iff.mp he) hf hp
        exact List.mem_filterMap.mpr ⟨_, hm, hq⟩
    | owned hn hp ho ht =>
      have hq := (Scope.resolve_joined_iff hd hj hp).mpr ⟨ho, ht⟩
      exact .inr (List.mem_filterMap.mpr ⟨_, s.names_reference hn, hq⟩)

/-- The joins of a statement are declared ones, in the order of their declaration and each at most
once. The statement makes exactly those that the request needs, and in its text these joins and no
others follow the primary table. -/
theorem joins_required {o : Options} {p : Params} {q : Query} (hd : o.scope.qualifiers.Nodup)
    (h : compileParams o p = .ok q) :
    ∃ (s : Statement) (c : ClauseTexts), o.statement p.directives = .ok s ∧
      q = .ofStatement o.style s ∧ q.sql = c.sql ∧ c.Answers o p.directives s.joins ∧
      s.joins.Sublist (o.scope.declaredJoins.map fun (name, spec) =>
        ⟨name, o.schema.joinQualifier name spec, spec⟩) ∧
      (s.joins.map PlannedJoin.table).Nodup ∧
      ∀ relation spec, (relation, spec) ∈ o.scope.declaredJoins →
        ((∃ j ∈ s.joins, j.table = relation) ↔
          p.directives.Requires o.scope relation (o.schema.joinQualifier relation spec)) := by
  obtain ⟨s, hs, rfl⟩ := compileParams_eq_ok h
  obtain ⟨stages, rfl⟩ := Options.statement_eq_ok hs
  refine ⟨_, _, hs, rfl, stages.statement.sql_eq_clauseTexts o.style, stages.answers, ?_, ?_,
    fun relation spec hj => stages.joined_iff hd hj⟩
  · exact Scope.plan_sublist o.scope _ _
  · exact Scope.nodup_plan o.scope _ _

/-- A name that is written with the alias of a join brings the join in. -/
theorem joins_required_orders :
    ∃ (q : Query) (s : Statement) (c : ClauseTexts),
      compileParams .orders ⟨[("$filter".toList, "c.city eq 'Graz'".toList)]⟩ = .ok q ∧
      q = { sql := ("SELECT * FROM orders o LEFT JOIN customers c ON c.id = o.customer AND " ++
              "c.kind <> 'guest' WHERE c.city = $1").toList
            params := [.text "Graz".toList] } ∧
      q = .ofStatement .postgres s ∧ q.sql = c.sql ∧
      c.Answers .orders (Params.directives ⟨[("$filter".toList, "c.city eq 'Graz'".toList)]⟩)
        s.joins ∧
      (∃ j ∈ s.joins, j.table = "customers".toList) ∧
      c.joins = ["LEFT JOIN customers c ON c.id = o.customer AND c.kind <> 'guest'".toList] := by
  have h : compileParams .orders ⟨[("$filter".toList, "c.city eq 'Graz'".toList)]⟩ = .ok
      { sql := ("SELECT * FROM orders o LEFT JOIN customers c ON c.id = o.customer AND " ++
          "c.kind <> 'guest' WHERE c.city = $1").toList
        params := [.text "Graz".toList] } := by decide +kernel
  have hd : Options.orders.scope.qualifiers.Nodup := by decide +kernel
  obtain ⟨s, c, _, hq, hsql, answers, hsublist, _, hiff⟩ := joins_required hd h
  have hparse : Filter.parse "c.city eq 'Graz'".toList =
      .ok (.comparison "c.city".toList .eq (.text "Graz".toList)) := by decide +kernel
  have hrendered : Directives.Renders (Params.directives
      ⟨[("$filter".toList, "c.city eq 'Graz'".toList)]⟩) ("c".toList ++ '.' :: "city".toList) :=
    .inl (.filter (by decide +kernel) hparse List.mem_cons_self)
  obtain ⟨j, hj, ht⟩ := (hiff "customers".toList _ List.mem_cons_self).mpr
    (.qualified hrendered (by decide))
  refine ⟨_, s, c, h, rfl, hq, hsql, answers, ⟨j, hj, ht⟩, ?_⟩
  -- Only one join is declared, so the joins made are that one.
  rcases List.sublist_singleton.mp hsublist with hnone | hone
  · rw [hnone] at hj
    cases hj
  · rw [PlannedJoin.forall_written_iff.mp answers.joined, hone]
    decide +kernel

end RequestSql
