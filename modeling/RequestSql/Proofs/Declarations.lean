import RequestSql.Proofs.Configuration

namespace RequestSql

namespace NameMap

variable {α : Type}

section Insertion

variable {name : Text} {a : α} {entries : List (Text × α)}

theorem names_insertEntry_of_mem (h : name ∈ entries.map Prod.fst) :
    (insertEntry name a entries).map Prod.fst = entries.map Prod.fst := by
  induction entries with
  | nil => simp at h
  | cons entry rest ih =>
    obtain ⟨n, b⟩ := entry
    by_cases hn : n = name
    · simp [insertEntry, hn]
    · have hrest : name ∈ rest.map Prod.fst := by simpa [Ne.symm hn] using h
      simp [insertEntry, hn, ih hrest]

/-- An inserted name has the new value, and every other name has the value that it had. -/
theorem lookup_insertEntry (k : Text) :
    (insertEntry name a entries).lookup k = if k = name then some a else entries.lookup k := by
  induction entries with
  | nil => by_cases hk : k = name <;> simp [insertEntry, List.lookup_cons, hk, beq_eq_false_iff_ne.mpr]
  | cons entry rest ih =>
    obtain ⟨n, b⟩ := entry
    by_cases hk : k = n
    · subst hk
      by_cases hn : k = name <;> simp [insertEntry, hn]
    · have hbeq : (k == n) = false := beq_eq_false_iff_ne.mpr hk
      by_cases hn : n = name
      · subst hn
        simp [insertEntry, List.lookup_cons, hbeq, hk]
      · simp [insertEntry, List.lookup_cons, hn, hbeq, ih]

end Insertion

theorem ofPairs_append (pairs : List (Text × α)) (last : Text × α) :
    ofPairs (pairs ++ [last]) = (ofPairs pairs).insert last.1 last.2 := by
  simp [ofPairs]

/-- Names stand in the order in which they first came. -/
theorem names_ofPairs (pairs : List (Text × α)) :
    (ofPairs pairs).names = (pairs.map Prod.fst).eraseDups := by
  induction pairs using List.reverseRecOn with
  | nil => rfl
  | append_singleton pairs last ih =>
    rw [names] at ih
    rw [ofPairs_append, names, insert, List.map_append, List.eraseDups_append]
    by_cases h : last.1 ∈ (ofPairs pairs).entries.map Prod.fst
    · have hm : last.1 ∈ pairs.map Prod.fst := by
        rw [ih] at h
        exact List.mem_eraseDups.mp h
      simp [names_insertEntry_of_mem h, ih, List.removeAll, hm]
    · have hm : last.1 ∉ pairs.map Prod.fst := by
        rw [ih] at h
        exact fun hm => h (List.mem_eraseDups.mpr hm)
      simp [insertEntry_of_not_mem h, ih, List.removeAll, hm, List.eraseDups_cons]

/-- Of several values for a name the last one counts. -/
theorem get?_ofPairs (pairs : List (Text × α)) (name : Text) :
    (ofPairs pairs).get? name = (pairs.findRev? (·.1 == name)).map Prod.snd := by
  rw [List.findRev?_eq_find?_reverse]
  induction pairs using List.reverseRecOn with
  | nil => rfl
  | append_singleton pairs last ih =>
    rw [get?] at ih
    rw [ofPairs_append, get?, insert, lookup_insertEntry, ih, List.reverse_append]
    by_cases h : name = last.1
    · simp [h]
    · simp [h, Ne.symm h]

end NameMap

/-- A table as it is declared. A relation may be declared more than once. -/
structure TableDecl where
  name : Text
  aliasName : Option Text := none
  columns : List Text := []
  joins : List (Text × JoinSpec) := []

namespace TableDecl

def start (d : TableDecl) : Table :=
  match d.aliasName with
  | some aliasName => Table.withAlias { columns := d.columns } aliasName
  | none => { columns := d.columns }

def build (d : TableDecl) : Table :=
  d.joins.foldl (fun t (name, spec) => t.join name spec) d.start

def toJson (d : TableDecl) : Json :=
  .object (Json.optionalMember "alias" d.aliasName ++
    [("columns".toList, .array (d.columns.map .string)),
      ("joins".toList, .object (d.joins.map fun (name, j) => (name, j.toJson)))])

theorem foldl_join (joins : List (Text × JoinSpec)) (t : Table) :
    joins.foldl (fun t (name, spec) => t.join name spec) t =
      { t with joins := joins.foldl (fun m (name, spec) => m.insert name spec) t.joins } := by
  induction joins generalizing t with
  | nil => rfl
  | cons j joins ih => exact ih (t.join j.1 j.2)

theorem build_eq (d : TableDecl) : d.build = ⟨d.aliasName, d.columns, .ofPairs d.joins⟩ := by
  rw [build, foldl_join, start]
  cases d.aliasName <;> rfl

theorem ofNode_toJson (d : TableDecl) : Table.ofNode d.toJson.node = .ok d.build := by
  obtain ⟨name, aliasName, columns, joins⟩ := d
  have hjoins := Json.members_object JoinSpec.ofNode_toJson joins
  have hrecord : (toJson ⟨name, aliasName, columns, joins⟩).node.record Table.fields {} =
      .ok (⟨aliasName, columns, .ofPairs joins⟩, "joins".toList :: "columns".toList ::
        ((Json.optionalMember "alias" aliasName).map Prod.fst ++ [])) := by
    change (Json.memberNodes (Json.optionalMember "alias" aliasName ++
      [("columns".toList, .array (columns.map .string)),
        ("joins".toList, .object (joins.map fun (name, j) => (name, j.toJson)))])).record
      Table.fields [] {} = _
    refine Eq.trans
      (Json.record_optional (fun a => Table.mk a [] .empty) aliasName rfl rfl ?_) ?_
    · exact fun t => Json.bind_return (Json.bind_return (Json.text_string t) some) _
    refine Eq.trans (Json.record_cons rfl (by cases aliasName <;> rfl)
      (Json.bind_return (Json.list_array Json.text_string columns) _)) ?_
    exact Json.record_cons rfl (by cases aliasName <;> rfl) (Json.bind_return hjoins _)
  rw [Table.ofNode, hrecord, build_eq]
  rfl

theorem toJson_isNumberless (d : TableDecl) : d.toJson.isNumberless = true := by
  have hcolumns : Json.areNumberless (d.columns.map .string) = true := by
    simp [Json.areNumberless_iff, Json.isNumberless]
  have hjoins : Json.membersNumberless (d.joins.map fun (name, j) => (name, j.toJson)) = true := by
    rw [Json.membersNumberless_iff]
    intro m hm
    obtain ⟨entry, _, rfl⟩ := List.mem_map.mp hm
    exact JoinSpec.toJson_isNumberless entry.2
  cases h : d.aliasName <;> simp [toJson, h, Json.optionalMember, Json.isNumberless,
    Json.membersNumberless, hcolumns, hjoins]

end TableDecl

namespace Schema

def declare (ds : List TableDecl) : Schema :=
  ds.foldl (fun s d => s.table d.name d.build) {}

def declarationsJson (ds : List TableDecl) : Json :=
  .object (ds.map fun d => (d.name, d.toJson))

theorem declare_eq (ds : List TableDecl) :
    declare ds = ⟨.ofPairs (ds.map fun d => (d.name, d.build))⟩ := by
  have hfold : ∀ s : Schema, ds.foldl (fun s d => s.table d.name d.build) s =
      ⟨(ds.map fun d => (d.name, d.build)).foldl (fun m e => m.insert e.1 e.2) s.tables⟩ := by
    induction ds with
    | nil => exact fun s => rfl
    | cons d ds ih => exact fun s => ih (s.table d.name d.build)
  exact hfold {}

theorem declarationsJson_isNumberless (ds : List TableDecl) :
    (declarationsJson ds).isNumberless = true := by
  rw [declarationsJson, Json.isNumberless, Json.membersNumberless_iff]
  intro m hm
  obtain ⟨d, _, rfl⟩ := List.mem_map.mp hm
  exact d.toJson_isNumberless

theorem ofNode_declarationsJson (ds : List TableDecl) :
    ofNode (declarationsJson ds).node = .ok (declare ds) := by
  have htables : (declarationsJson ds).node.members Table.ofNode =
      .ok (ds.map fun d => (d.name, d.build)) := by
    have h := Json.members_object_map TableDecl.ofNode_toJson (ds.map fun d => (d.name, d))
    simpa [declarationsJson, Function.comp_def] using h
  rw [declare_eq]
  exact Json.bind_return htables _

/-- Every text of the declarations is read as the schema that is built from them one after the
other, whatever is declared twice in them. Its names are different, stand in the order in which they
first came and have their last definition; so have the joins of every table. -/
theorem declarations_agree (ds : List TableDecl) :
    Json.Spells (declarationsJson ds).compact (declarationsJson ds) ∧
      (∀ t, Json.Spells t (declarationsJson ds) → parse t = .ok (declare ds)) ∧
      (declare ds).tables.names.Nodup ∧
      (declare ds).tables.names = (ds.map TableDecl.name).eraseDups ∧
      (∀ name, (declare ds).get? name =
        (ds.findRev? (·.name == name)).map TableDecl.build) ∧
      ∀ d : TableDecl, d.build.aliasName = d.aliasName ∧ d.build.columns = d.columns ∧
        d.build.joins.names.Nodup ∧
        d.build.joins.names = (d.joins.map Prod.fst).eraseDups ∧
        ∀ relation, d.build.joins.get? relation =
          (d.joins.findRev? (·.1 == relation)).map Prod.snd := by
  refine ⟨Json.spells_compact (declarationsJson_isNumberless ds), ?_, (declare ds).tables.nodup,
    ?_, ?_, ?_⟩
  · intro t ht
    rw [parse, ht.decode_eq, ofNode_declarationsJson]
  · simp [declare_eq, NameMap.names_ofPairs, Function.comp_def]
  · intro name
    simp [get?, declare_eq, NameMap.get?_ofPairs, List.findRev?_eq_find?_reverse,
      ← List.map_reverse, List.find?_map, Function.comp_def]
  · intro d
    rw [d.build_eq]
    exact ⟨rfl, rfl, (NameMap.ofPairs d.joins).nodup, NameMap.names_ofPairs d.joins,
      NameMap.get?_ofPairs d.joins⟩

def repeatedOrders : List TableDecl :=
  [{ name := "orders".toList, columns := ["id".toList] },
    { name := "tags".toList },
    { name := "orders".toList, aliasName := some "o".toList
      joins := [("tags".toList, { predicate := "a".toList }),
        ("users".toList, { predicate := "b".toList }),
        ("tags".toList, { kind := .inner, predicate := "c".toList })] }]

/-- A table that is declared again keeps its place before the other one. -/
theorem declarations_agree_repeated :
    ∃ s, parse (declarationsJson repeatedOrders).compact = .ok s ∧
      s.tables.names = ["orders".toList, "tags".toList] ∧
      s.get? "orders".toList = some
        { aliasName := some "o".toList
          joins := .ofPairs [("tags".toList, { kind := .inner, predicate := "c".toList }),
            ("users".toList, { predicate := "b".toList })] } := by
  obtain ⟨hspells, hparse, _, hnames, hget, _⟩ := declarations_agree repeatedOrders
  refine ⟨_, hparse _ hspells, hnames.trans (by decide), ?_⟩
  exact (hget _).trans (by decide)

end Schema

end RequestSql
