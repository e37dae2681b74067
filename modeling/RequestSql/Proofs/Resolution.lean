import RequestSql.Proofs.Joins
import RequestSql.Proofs.Placeholders

namespace RequestSql

def Schema.Lacks (s : Schema) (column : Text) : Prop :=
  ∀ entry ∈ s.tables.entries, column ∉ entry.2.columns

/-- What a field without a point is qualified with, by the first table that declares it. -/
inductive Scope.Qualifies (s : Scope) (field : Text) : Text → Prop where
  | primaryAlias {a : Text} (first : s.schema.FirstDeclares s.table field)
      (called : s.aliasName = some a) : Qualifies s field a
  | primaryTable (first : s.schema.FirstDeclares s.table field) (called : s.aliasName = none) :
      Qualifies s field s.table
  | join {name : Text} {spec : JoinSpec} (first : s.schema.FirstDeclares name field)
      (other : name ≠ s.table) (declared : (name, spec) ∈ s.declaredJoins) :
      Qualifies s field (s.schema.joinQualifier name spec)
  | table {name : Text} (first : s.schema.FirstDeclares name field) (other : name ≠ s.table)
      (undeclared : ∀ spec, (name, spec) ∉ s.declaredJoins) :
      Qualifies s field (s.schema.qualifier name)
  | unknown {a : Text} (lacks : s.schema.Lacks field) (called : s.aliasName = some a) :
      Qualifies s field a

namespace Scope

variable {s : Scope} {field name : Text}

theorem owner_eq_none_iff : s.owner? field = none ↔ s.schema.Lacks field := by
  rw [owner?, Option.map_eq_none_iff, List.find?_eq_none]
  simp [Schema.Lacks, Table.hasColumn]

theorem resolve_of_point (h : '.' ∈ field) : s.resolve field = field :=
  if_pos h

/-- The qualifier of a table that is the first to declare a field. -/
theorem qualifies_tableQualifier (h : s.schema.FirstDeclares name field) :
    s.Qualifies field (s.tableQualifier name) := by
  by_cases hn : name = s.table
  · subst hn
    rw [tableQualifier, if_pos rfl]
    cases ha : s.aliasName with
    | none => exact .primaryTable h ha
    | some a => exact .primaryAlias h ha
  · cases ha : s.joinAlias? name with
    | none =>
      rw [tableQualifier, if_neg hn, ha]
      refine .table h hn fun spec hs => ?_
      rw [joinAlias_declared hs] at ha
      cases ha
    | some a =>
      rw [tableQualifier_joined hn ha]
      obtain ⟨spec, hs, rfl⟩ := Option.map_eq_some_iff.mp ha
      exact .join h hn (mem_of_lookup hs)

/-- A field without a point stays bare only where nothing could qualify it. -/
theorem resolve_cases (h : '.' ∉ field) :
    (s.resolve field = field ∧ s.schema.Lacks field ∧ s.aliasName = none) ∨
      ∃ q, s.Qualifies field q ∧ s.resolve field = q ++ '.' :: field := by
  cases ho : s.owner? field with
  | some name =>
    exact .inr ⟨_, qualifies_tableQualifier (owner_iff.mp ho), resolve_of_owner h ho⟩
  | none =>
    have hlacks := owner_eq_none_iff.mp ho
    rw [resolve, if_neg h, ho]
    dsimp only [defaultQualifier]
    cases ha : s.aliasName with
    | none => exact .inl ⟨rfl, hlacks, rfl⟩
    | some a => exact .inr ⟨a, .unknown hlacks ha, List.append_assoc ..⟩

theorem resolve_resolve (s : Scope) (field : Text) :
    s.resolve (s.resolve field) = s.resolve field := by
  by_cases h : '.' ∈ field
  · rw [resolve_of_point h, resolve_of_point h]
  · rcases resolve_cases (s := s) h with ⟨hbare, _⟩ | ⟨q, _, hq⟩
    · rw [hbare, hbare]
    · exact resolve_of_point (by rw [hq]; simp)

end Scope

namespace Filter

inductive Shape where
  | comparison (op : CompareOp) (value : Value)
  | logical (op : LogicalOp) (left right : Shape)
  | not (inner : Shape)
  deriving DecidableEq

def shape : Filter → Shape
  | .comparison _ op value => .comparison op value
  | .logical op left right => .logical op left.shape right.shape
  | .not inner => .not inner.shape

theorem shape_mapFields (f : Text → Text) (e : Filter) : (e.mapFields f).shape = e.shape := by
  induction e with
  | comparison field op value => rfl
  | logical op left right ihl ihr => rw [mapFields, shape, ihl, ihr, shape]
  | not inner ih => rw [mapFields, shape, ih, shape]

section Actions

variable {m : Type → Type} [Monad m] [LawfulMonad m]

theorem mapFieldsM_pure (f : Text → Text) (e : Filter) :
    e.mapFieldsM (fun field => (pure (f field) : m Text)) = pure (e.mapFields f) := by
  induction e with
  | comparison field op value => simp [mapFieldsM, mapFields]
  | logical op left right ihl ihr => simp [mapFieldsM, mapFields, ihl, ihr]
  | not inner ih => simp [mapFieldsM, mapFields, ih]

/-- The actions are run on the fields in textual order, and what goes on after them finds all but the
fields as it was. -/
theorem mapFieldsM_bind {α : Type} (f : Text → m Text) (e : Filter)
    (next : Shape → List Text → m α) :
    (e.mapFieldsM f >>= fun e' => next e'.shape e'.fields) = e.fields.mapM f >>= next e.shape := by
  induction e generalizing next with
  | comparison field op value => simp [mapFieldsM, shape, fields]
  | logical op left right ihl ihr =>
    have hleft := ihl fun shape fields => right.mapFieldsM f >>= fun e' =>
      next (.logical op shape e'.shape) (fields ++ e'.fields)
    have hright := fun fields => ihr fun shape more =>
      next (.logical op left.shape shape) (fields ++ more)
    simp only [hright] at hleft
    simpa [mapFieldsM, shape, fields] using hleft
  | not inner ih => simpa [mapFieldsM, shape, fields] using ih fun shape => next (.not shape)

end Actions

theorem fields_length_of_shape {e e' : Filter} (h : e.shape = e'.shape) :
    e.fields.length = e'.fields.length := by
  induction e generalizing e' with
  | comparison field op value =>
    cases e' with
    | comparison field' op' value' => rfl
    | logical op' left' right' | not inner' => cases h
  | logical op left right ihl ihr =>
    cases e' with
    | logical op' left' right' =>
      obtain ⟨_, hl, hr⟩ := Shape.logical.inj h
      rw [fields, fields, List.length_append, List.length_append, ihl hl, ihr hr]
    | comparison field' op' value' | not inner' => cases h
  | not inner ih =>
    cases e' with
    | not inner' => rw [fields, fields, ih (Shape.not.inj h)]
    | comparison field' op' value' | logical op' left' right' => cases h

/-- A filter is its shape and its fields. -/
theorem eq_of_shape_of_fields {e e' : Filter} (hs : e.shape = e'.shape)
    (hf : e.fields = e'.fields) : e = e' := by
  induction e generalizing e' with
  | comparison field op value =>
    cases e' with
    | comparison field' op' value' =>
      obtain ⟨rfl, rfl⟩ := Shape.comparison.inj hs
      rw [List.singleton_inj.mp hf]
    | logical op' left' right' | not inner' => cases hs
  | logical op left right ihl ihr =>
    cases e' with
    | logical op' left' right' =>
      obtain ⟨rfl, hl, hr⟩ := Shape.logical.inj hs
      -- the operands have as many fields each, so their fields can be told apart
      obtain ⟨hfl, hfr⟩ := List.append_inj hf (fields_length_of_shape hl)
      rw [ihl hl hfl, ihr hr hfr]
    | comparison field' op' value' | not inner' => cases hs
  | not inner ih =>
    cases e' with
    | not inner' => rw [ih (Shape.not.inj hs) hf]
    | comparison field' op' value' | logical op' left' right' => cases hs

theorem mapFields_twice {f : Text → Text} (hf : ∀ field, f (f field) = f field) (e : Filter) :
    (e.mapFields f).mapFields f = e.mapFields f := by
  apply eq_of_shape_of_fields
  · rw [shape_mapFields]
  · rw [fields_mapFields, fields_mapFields, List.map_map]
    exact List.map_congr_left fun field _ => hf field

end Filter

/-- A name is never qualified twice. One without a point stays bare, if no table declares it and the
primary table has no alias, or it gets a qualifier that can be read off the result. A filter with its
fields qualified is one with the same shape, operators, values and parameters, and qualifying them again
does not change it. -/
theorem Scope.resolve_once (s : Scope) :
    (∀ field, s.resolve (s.resolve field) = s.resolve field) ∧
    (∀ field, '.' ∉ field →
      (s.resolve field = field ∧ s.schema.Lacks field ∧ s.aliasName = none) ∨
      ∃ q, s.Qualifies field q ∧ s.resolve field = q ++ '.' :: field ∧
        Name.qualifier? (s.resolve field) = some q) ∧
    ∀ e : Filter,
      (e.mapFields s.resolve).mapFields s.resolve = e.mapFields s.resolve ∧
      (e.mapFields s.resolve).shape = e.shape ∧
      (e.mapFields s.resolve).fields = e.fields.map s.resolve ∧
      (e.mapFields s.resolve).fragment.params = e.fragment.params := by
  refine ⟨s.resolve_resolve, fun field h => ?_, fun e => ⟨?_, ?_, ?_, ?_⟩⟩
  · refine (resolve_cases h).imp_right fun ⟨q, hq, hresolve⟩ => ⟨q, hq, hresolve, ?_⟩
    rw [hresolve]
    exact Name.qualifier_append h
  · exact Filter.mapFields_twice s.resolve_resolve e
  · exact Filter.shape_mapFields s.resolve e
  · exact Filter.fields_mapFields s.resolve e
  · rw [Filter.params_fragment, Filter.params_fragment, Filter.values_mapFields]

def Scope.shopOrders : Scope :=
  { Options.orders.scope with aliasName := some "shop.o".toList }

theorem Scope.resolve_once_shopOrders :
    shopOrders.resolve "total".toList = "shop.o.total".toList ∧
      shopOrders.resolve "shop.o.total".toList = "shop.o.total".toList ∧
      Name.qualifier? "shop.o.total".toList = some "shop.o".toList ∧
      shopOrders.Qualifies "total".toList "shop.o".toList := by
  have h : shopOrders.resolve "total".toList = "shop.o.total".toList := by decide +kernel
  obtain ⟨hagain, hcases, _⟩ := resolve_once shopOrders
  have htwice := hagain "total".toList
  rw [h] at htwice
  refine ⟨h, htwice, ?_⟩
  rcases hcases "total".toList (by decide) with ⟨hbare, _⟩ | ⟨q, hq, hresolve, hqualifier⟩
  · rw [h] at hbare
    exact absurd hbare (by decide)
  · rw [h] at hresolve hqualifier
    obtain rfl : "shop.o".toList = q := List.append_cancel_right hresolve
    exact ⟨hqualifier, hq⟩

end RequestSql
