import Mathlib.Data.List.Forall2
import RequestSql.Query

namespace RequestSql

section Outcomes

variable {ε α β : Type} {x : Except ε α} {f : α → Except ε β} {b : β}

theorem bind_eq_ok : x >>= f = .ok b ↔ ∃ a, x = .ok a ∧ f a = .ok b := by
  cases x with
  | error e =>
    constructor
    · intro h
      cases h
    · rintro ⟨_, h, _⟩
      cases h
  | ok a =>
    constructor
    · intro h
      exact ⟨a, rfl, h⟩
    · rintro ⟨_, ⟨⟩, h⟩
      exact h

theorem mapM_eq_ok {xs : List α} {ys : List β} :
    xs.mapM f = .ok ys ↔ List.Forall₂ (fun x y => f x = .ok y) xs ys := by
  induction xs generalizing ys with
  | nil =>
    rw [List.mapM_nil, List.forall₂_nil_left_iff]
    exact ⟨fun h => (Except.ok.inj h).symm, fun h => h ▸ rfl⟩
  | cons x xs ih =>
    rw [List.mapM_cons, bind_eq_ok, List.forall₂_cons_left_iff]
    constructor
    · rintro ⟨y, hy, h⟩
      obtain ⟨rest, hrest, h⟩ := bind_eq_ok.mp h
      exact ⟨y, rest, hy, ih.mp hrest, (Except.ok.inj h).symm⟩
    · rintro ⟨y, rest, hy, hrest, rfl⟩
      exact ⟨y, hy, bind_eq_ok.mpr ⟨rest, ih.mpr hrest, rfl⟩⟩

/-- Whatever an entry is read as, every result of reading a list of entries is. -/
theorem forall_of_mapM {xs : List α} {ys : List β} {P : β → Prop} (h : xs.mapM f = .ok ys)
    (hp : ∀ x y, f x = .ok y → P y) : ∀ y ∈ ys, P y := by
  replace h := mapM_eq_ok.mp h
  induction h with
  | nil => simp
  | @cons x y _ _ hxy _ ih =>
    intro z hz
    rcases List.mem_cons.mp hz with rfl | hz
    · exact hp x z hxy
    · exact ih z hz

end Outcomes

namespace Filter

theorem fields_mapFields (f : Text → Text) (e : Filter) :
    (e.mapFields f).fields = e.fields.map f := by
  induction e with
  | comparison field op value => rfl
  | logical op left right ihl ihr => rw [mapFields, fields, ihl, ihr, fields, List.map_append]
  | not inner ih => exact ih

theorem values_mapFields (f : Text → Text) (e : Filter) : (e.mapFields f).values = e.values := by
  induction e with
  | comparison field op value => rfl
  | logical op left right ihl ihr => rw [mapFields, values, ihl, ihr, values]
  | not inner ih => exact ih

end Filter

section Directives

variable {α : Type} {given : Directives} {d : Directive} {parse : Text → Except CompileError α}
  {found : Option α} (h : given.read d parse = .ok found)

include h

/-- A directive that is given was read. -/
theorem Directives.read_given {value : Text} (hg : given d = some value) :
    ∃ a, parse value = .ok a ∧ found = some a := by
  rw [Directives.read, hg] at h
  obtain ⟨a, ha, h⟩ := bind_eq_ok.mp h
  exact ⟨a, ha, (Except.ok.inj h).symm⟩

theorem Directives.read_absent (hg : given d = none) : found = none := by
  rw [Directives.read, hg] at h
  exact (Except.ok.inj h).symm

end Directives

namespace Options

structure Stages (o : Options) (given : Directives) where
  expansions : List Expansion
  projection : Projection
  filter : Option Filter
  clauses : Clauses
  checked : o.check = .ok ()
  expansions_ok : o.expansions given = .ok expansions
  projection_ok : o.projection given expansions = .ok projection
  filter_ok : given.read .filter o.parseFilter = .ok filter
  clauses_ok : o.clauses given = .ok clauses

def Stages.statement {o : Options} {given : Directives} (s : o.Stages given) : Statement :=
  o.assemble s.expansions s.projection s.filter s.clauses

namespace Stages

variable {o : Options} {given : Directives} (s : o.Stages given)

theorem expansions_read :
    ∃ found, given.read .expand Expand.parse = .ok found ∧ s.expansions = found.getD [] := by
  obtain ⟨found, hf, h⟩ := bind_eq_ok.mp s.expansions_ok
  obtain ⟨_, _, h⟩ := bind_eq_ok.mp h
  exact ⟨found, hf, (Except.ok.inj h).symm⟩

theorem checkRelations_eq_ok {scope : Scope} {expansions : List Expansion} {u : Unit}
    (h : scope.checkRelations expansions = .ok u) :
    ∀ e ∈ expansions, ∃ a, scope.joinAlias? e.table = some a := by
  induction expansions with
  | nil => simp
  | cons e rest ih =>
    unfold Scope.checkRelations at h
    split at h
    · cases h
    · rename_i a ha
      exact List.forall_mem_cons.mpr ⟨⟨a, ha⟩, ih h⟩

/-- The primary table declares a join to every table that is expanded. -/
theorem expansions_joined : ∀ e ∈ s.expansions, ∃ a, o.scope.joinAlias? e.table = some a := by
  obtain ⟨found, _, h⟩ := bind_eq_ok.mp s.expansions_ok
  obtain ⟨_, hc, h⟩ := bind_eq_ok.mp h
  rw [← Except.ok.inj h]
  exact checkRelations_eq_ok hc

/-- A grouping takes the place of a selection. -/
theorem projection_grouped {value : Text} (hg : given .apply = some value) :
    ∃ g, Apply.parse value = .ok g ∧ s.projection = o.scope.groupedProjection g := by
  have h := s.projection_ok
  rw [Options.projection, hg] at h
  obtain ⟨g, hp, h⟩ := bind_eq_ok.mp h
  exact ⟨g, hp, (Except.ok.inj h).symm⟩

theorem projection_plain (hg : given .apply = none) :
    ∃ selected, given.read .select Select.parse = .ok selected ∧
      s.projection = o.scope.plainProjection selected s.expansions := by
  have h := s.projection_ok
  rw [Options.projection, hg] at h
  obtain ⟨selected, hs, h⟩ := bind_eq_ok.mp h
  exact ⟨selected, hs, (Except.ok.inj h).symm⟩

theorem filter_given {value : Text} (hg : given .filter = some value) :
    ∃ e, Filter.parse value = .ok e ∧ s.filter = some (e.mapFields o.scope.resolve) := by
  obtain ⟨f, hp, hf⟩ := Directives.read_given s.filter_ok hg
  unfold parseFilter at hp
  split at hp
  · rename_i e he
    exact ⟨e, he, by rw [hf, Except.ok.inj hp]⟩
  · cases hp

theorem filter_absent (hg : given .filter = none) : s.filter = none :=
  Directives.read_absent s.filter_ok hg

theorem orderBy_read :
    ∃ found, given.read .orderBy o.parseOrderBy = .ok found ∧
      s.clauses.orderBy = found.getD [] := by
  obtain ⟨found, hf, h⟩ := bind_eq_ok.mp s.clauses_ok
  obtain ⟨_, _, h⟩ := bind_eq_ok.mp h
  obtain ⟨_, _, h⟩ := bind_eq_ok.mp h
  exact ⟨found, hf, by rw [← Except.ok.inj h]⟩

theorem orderBy_given {value : Text} (hg : given .orderBy = some value) :
    ∃ keys, OrderBy.parse value = .ok keys ∧
      s.clauses.orderBy = keys.map (SortKey.mapField o.scope.resolve) := by
  obtain ⟨found, hf, hs⟩ := s.orderBy_read
  obtain ⟨keys, hp, rfl⟩ := Directives.read_given hf hg
  obtain ⟨read, hr, hp⟩ := bind_eq_ok.mp hp
  exact ⟨read, hr, hs.trans (Except.ok.inj hp).symm⟩

theorem orderBy_absent (hg : given .orderBy = none) : s.clauses.orderBy = [] := by
  obtain ⟨found, hf, hs⟩ := s.orderBy_read
  rw [hs, Directives.read_absent hf hg]
  rfl

end Stages

theorem statement_eq_ok {o : Options} {given : Directives} {s : Statement}
    (h : o.statement given = .ok s) : ∃ stages : o.Stages given, s = stages.statement := by
  obtain ⟨⟨⟩, hcheck, h⟩ := bind_eq_ok.mp h
  obtain ⟨expansions, hexpansions, h⟩ := bind_eq_ok.mp h
  obtain ⟨projection, hprojection, h⟩ := bind_eq_ok.mp h
  obtain ⟨filter, hfilter, h⟩ := bind_eq_ok.mp h
  obtain ⟨clauses, hclauses, h⟩ := bind_eq_ok.mp h
  exact ⟨⟨expansions, projection, filter, clauses, hcheck, hexpansions, hprojection, hfilter,
    hclauses⟩, (Except.ok.inj h).symm⟩

/-- Where every stage succeeds, so does the whole. -/
theorem Stages.statement_ok {o : Options} {given : Directives} (s : o.Stages given) :
    o.statement given = .ok s.statement := by
  refine bind_eq_ok.mpr ⟨(), s.checked, bind_eq_ok.mpr ⟨_, s.expansions_ok, ?_⟩⟩
  refine bind_eq_ok.mpr ⟨_, s.projection_ok, bind_eq_ok.mpr ⟨_, s.filter_ok, ?_⟩⟩
  exact bind_eq_ok.mpr ⟨_, s.clauses_ok, rfl⟩

end Options

def Options.orders : Options where
  table := "orders".toList
  schema :=
    { tables := .ofPairs [
        ("orders".toList,
          { aliasName := some "o".toList
            columns := ["id".toList, "total".toList]
            joins := .ofPairs [("customers".toList,
              { predicate := "c.id = o.customer AND c.kind <> 'guest'".toList })] }),
        ("customers".toList,
          { aliasName := some "c".toList, columns := ["name".toList, "city".toList] })] }
  style := .postgres

theorem compileParams_eq_ok {o : Options} {p : Params} {q : Query}
    (h : compileParams o p = .ok q) :
    ∃ s, o.statement p.directives = .ok s ∧ q = .ofStatement o.style s := by
  obtain ⟨s, hs, h⟩ := bind_eq_ok.mp h
  exact ⟨s, hs, (Except.ok.inj h).symm⟩

theorem compileParams_of_statement {o : Options} {p : Params} {s : Statement}
    (h : o.statement p.directives = .ok s) : compileParams o p = .ok (.ofStatement o.style s) := by
  rw [compileParams, h]
  rfl

end RequestSql
