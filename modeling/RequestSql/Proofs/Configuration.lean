import Mathlib.Data.List.Induction
import RequestSql.Options.Codec
import RequestSql.Proofs.Documents

namespace RequestSql

namespace NameMap

variable {α : Type}

theorem ext {m n : NameMap α} (h : m.entries = n.entries) : m = n := by
  cases m
  cases n
  cases h
  rfl

theorem insertEntry_of_not_mem {name : Text} {a : α} {entries : List (Text × α)}
    (h : name ∉ entries.map Prod.fst) : insertEntry name a entries = entries ++ [(name, a)] := by
  induction entries with
  | nil => rfl
  | cons entry rest ih =>
    simp only [List.map_cons, List.mem_cons, not_or] at h
    simp [insertEntry, Ne.symm h.1, ih h.2]

/-- Pairs whose names differ are kept as they stand. -/
theorem entries_ofPairs {pairs : List (Text × α)} (h : (pairs.map Prod.fst).Nodup) :
    (ofPairs pairs).entries = pairs := by
  induction pairs using List.reverseRecOn with
  | nil => rfl
  | append_singleton pairs last ih =>
    rw [List.map_append, List.nodup_append] at h
    obtain ⟨hpairs, _, hlast⟩ := h
    have hstep : (ofPairs (pairs ++ [last])).entries =
        insertEntry last.1 last.2 (ofPairs pairs).entries := by
      simp [ofPairs, insert]
    rw [hstep, ih hpairs]
    exact insertEntry_of_not_mem fun hm => hlast _ hm _ (by simp) rfl

theorem ofPairs_entries (m : NameMap α) : ofPairs m.entries = m :=
  ext (entries_ofPairs m.nodup)

end NameMap

namespace Json

variable {α : Type} {read : Node → Except Fault α}

theorem StringBody.text_ofText (t : Text) : (StringBody.ofText t).text = .ok t := by
  have hunits : unitsText (t.map .char) none = .ok t := by
    induction t with
    | nil => rfl
    | cons c t ih =>
      rw [List.map_cons, unitsText, ih]
      rfl
  exact hunits

theorem text_string (t : Text) : (Json.string t).node.text = .ok t :=
  StringBody.text_ofText t

/-- An array of values that are read back is read back. -/
theorem list_array {write : α → Json} (h : ∀ a, read (write a).node = .ok a) (as : List α) :
    (Json.array (as.map write)).node.list read = .ok as := by
  change (itemNodes (as.map write)).toList read = .ok as
  induction as with
  | nil => rfl
  | cons a as ih =>
    rw [List.map_cons, itemNodes, Items.toList, h, ih]
    rfl

/-- An object is read member by member, in its order. -/
theorem members_object_map {β : Type} {write : β → Json} {value : β → α}
    (h : ∀ b, read (write b).node = .ok (value b)) (entries : List (Text × β)) :
    (Json.object (entries.map fun (name, b) => (name, write b))).node.members read =
      .ok (entries.map fun (name, b) => (name, value b)) := by
  change (memberNodes (entries.map fun (name, b) => (name, write b))).toList read = _
  induction entries with
  | nil => rfl
  | cons entry rest ih =>
    rw [List.map_cons, memberNodes, Members.toList, StringBody.text_ofText, h, ih]
    rfl

/-- An object whose values are read back is read back, in its order. -/
theorem members_object {write : α → Json} (h : ∀ a, read (write a).node = .ok a)
    (entries : List (Text × α)) :
    (Json.object (entries.map fun (name, a) => (name, write a))).node.members read =
      .ok entries := by
  simpa using members_object_map h entries

theorem bind_return {β : Type} {x : Except Fault β} {b : β} (h : x = .ok b) (f : β → α) :
    (do return f (← x)) = .ok (f b) := by
  rw [h]
  rfl

/-- A member of a record is read by its field, which comes for the first time. -/
theorem record_cons {fields : List (RecordField α)} {name : Text}
    {fill : Node → α → Except Fault α} {seen : List Text} {start next : α} {key : Text}
    {value : Json} {rest : List (Text × Json)}
    (hfield : fields.find? (fun f => f.name == key) = some ⟨name, fill⟩)
    (hseen : seen.contains key = false) (hread : fill value.node start = .ok next) :
    (memberNodes ((key, value) :: rest)).record fields seen start =
      (memberNodes rest).record fields (key :: seen) next := by
  rw [memberNodes, Members.record, StringBody.text_ofText]
  simp only [bind, Except.bind, hfield, hseen, Bool.false_eq_true, if_false, hread]

/-- A member that may be left out sets what its absence leaves unset. -/
theorem record_optional {fields : List (RecordField α)} {name : Text}
    {fill : Node → α → Except Fault α} {seen : List Text} {key : String}
    {rest : List (Text × Json)} (set : Option Text → α) (value : Option Text)
    (hfield : fields.find? (fun f => f.name == key.toList) = some ⟨name, fill⟩)
    (hseen : seen.contains key.toList = false)
    (hread : ∀ t, fill (Json.string t).node (set none) = .ok (set (some t))) :
    (memberNodes (optionalMember key value ++ rest)).record fields seen (set none) =
      (memberNodes rest).record fields ((optionalMember key value).map Prod.fst ++ seen)
        (set value) := by
  cases value with
  | none => rfl
  | some t => exact record_cons hfield hseen (hread t)

theorem membersNumberless_iff {members : List (Text × Json)} :
    membersNumberless members = true ↔ ∀ m ∈ members, m.2.isNumberless = true := by
  induction members with
  | nil => simp [membersNumberless]
  | cons m rest ih => simp [membersNumberless, ih]

theorem areNumberless_iff {items : List Json} :
    areNumberless items = true ↔ ∀ item ∈ items, item.isNumberless = true := by
  induction items with
  | nil => simp [areNumberless]
  | cons item rest ih => simp [areNumberless, ih]

end Json

open Json

theorem JoinType.ofName_sql (kind : JoinType) : JoinType.ofName? kind.sql = some kind := by
  cases kind <;> decide

namespace JoinSpec

theorem readKind_sql (kind : JoinType) : readKind (Json.string kind.sql).node = .ok kind := by
  rw [readKind, text_string]
  simp only [bind, Except.bind, JoinType.ofName_sql]
  rfl

theorem ofNode_toJson (j : JoinSpec) : ofNode j.toJson.node = .ok j := by
  obtain ⟨kind, predicate, aliasName⟩ := j
  have hrecord : (toJson ⟨kind, predicate, aliasName⟩).node.record fields { predicate := [] } =
      .ok (⟨kind, predicate, aliasName⟩, (optionalMember "alias" aliasName).map Prod.fst ++
        ["on".toList, "type".toList]) := by
    change (memberNodes (("type".toList, .string kind.sql) :: ("on".toList, .string predicate) ::
      optionalMember "alias" aliasName)).record fields [] _ = _
    refine Eq.trans (record_cons rfl rfl (bind_return (readKind_sql kind) _)) ?_
    refine Eq.trans (record_cons rfl rfl (bind_return (text_string predicate) _)) ?_
    conv_lhs => rw [← List.append_nil (optionalMember "alias" aliasName)]
    refine Eq.trans (record_optional (JoinSpec.mk kind predicate) aliasName rfl rfl ?_) rfl
    exact fun t => bind_return (bind_return (text_string t) some) _
  rw [ofNode, hrecord]
  cases aliasName <;> rfl

theorem toJson_isNumberless (j : JoinSpec) : j.toJson.isNumberless = true := by
  cases h : j.aliasName <;> simp [toJson, h, optionalMember, isNumberless, membersNumberless]

end JoinSpec

namespace Table

def joinMembers (t : Table) : List (Text × Json) :=
  if t.joins.isEmpty then []
  else [("joins".toList, .object (t.joins.entries.map fun (name, j) => (name, j.toJson)))]

theorem record_joins (aliasName : Option Text) (columns : List Text) (joins : NameMap JoinSpec)
    (seen : List Text) (hseen : seen.contains "joins".toList = false) :
    ∃ keys, (memberNodes (joinMembers ⟨aliasName, columns, joins⟩)).record fields seen
      ⟨aliasName, columns, .empty⟩ = .ok (⟨aliasName, columns, joins⟩, keys) := by
  rw [joinMembers]
  split
  · rename_i h
    have hempty : joins = .empty := NameMap.ext (List.isEmpty_iff.mp h)
    exact ⟨seen, by rw [hempty]; rfl⟩
  · have hjoins := members_object JoinSpec.ofNode_toJson joins.entries
    refine ⟨"joins".toList :: seen, Eq.trans (record_cons rfl hseen (bind_return hjoins _)) ?_⟩
    rw [NameMap.ofPairs_entries]
    rfl

theorem ofNode_toJson (t : Table) : ofNode t.toJson.node = .ok t := by
  obtain ⟨aliasName, columns, joins⟩ := t
  -- No member of a table has to be there, so which ones were seen does not matter.
  obtain ⟨keys, hjoins⟩ := record_joins aliasName columns joins
    ("columns".toList :: ((optionalMember "alias" aliasName).map Prod.fst ++ []))
    (by cases aliasName <;> rfl)
  have hrecord : (toJson ⟨aliasName, columns, joins⟩).node.record fields {} =
      .ok (⟨aliasName, columns, joins⟩, keys) := by
    change (memberNodes (optionalMember "alias" aliasName ++
      [("columns".toList, .array (columns.map .string))] ++
      joinMembers ⟨aliasName, columns, joins⟩)).record fields [] {} = _
    rw [List.append_assoc]
    refine Eq.trans (record_optional (fun a => Table.mk a [] .empty) aliasName rfl rfl ?_) ?_
    · exact fun t => bind_return (bind_return (text_string t) some) _
    · refine Eq.trans (record_cons rfl (by cases aliasName <;> rfl)
        (bind_return (list_array text_string columns) _)) hjoins
  rw [ofNode, hrecord]
  rfl

theorem toJson_isNumberless (t : Table) : t.toJson.isNumberless = true := by
  have hjoins : ∀ m ∈ t.joins.entries.map fun (name, j) => (name, j.toJson),
      m.2.isNumberless = true := by
    intro m hm
    obtain ⟨entry, _, rfl⟩ := List.mem_map.mp hm
    exact JoinSpec.toJson_isNumberless entry.2
  have hcolumns : areNumberless (t.columns.map .string) = true := by
    simp [areNumberless_iff, isNumberless]
  rw [← membersNumberless_iff] at hjoins
  cases h : t.aliasName <;> cases he : t.joins.isEmpty <;>
    simp [toJson, h, he, optionalMember, isNumberless, membersNumberless, hcolumns, hjoins]

end Table

namespace Schema

theorem ofNode_toJson (s : Schema) : ofNode s.toJson.node = .ok s := by
  have htables := members_object Table.ofNode_toJson s.tables.entries
  refine Eq.trans (bind_return htables _) ?_
  rw [NameMap.ofPairs_entries]

theorem toJson_isNumberless (s : Schema) : s.toJson.isNumberless = true := by
  rw [toJson, isNumberless, membersNumberless_iff]
  intro m hm
  obtain ⟨entry, _, rfl⟩ := List.mem_map.mp hm
  exact Table.toJson_isNumberless entry.2

end Schema

namespace Options

theorem ofNode_toJson (o : Options) : ofNode o.toJson.node = .ok o := by
  obtain ⟨table, aliasName, schema, style⟩ := o
  have hstyle : PlaceholderStyle.ofNode (Json.string style.name).node = .ok style := by
    cases style <;> rfl
  have hrecord : (toJson ⟨table, aliasName, schema, style⟩).node.record fields {} =
      .ok (⟨table, aliasName, schema, style⟩, "placeholderStyle".toList :: "schema".toList ::
        ((optionalMember "alias" aliasName).map Prod.fst ++ ["table".toList])) := by
    change (memberNodes (("table".toList, .string table) :: (optionalMember "alias" aliasName ++
      [("schema".toList, schema.toJson), ("placeholderStyle".toList, .string style.name)]))).record
      fields [] {} = _
    refine Eq.trans (record_cons rfl rfl (bind_return (text_string table) _)) ?_
    refine Eq.trans
      (record_optional (fun a => Options.mk table a {} .mysql) aliasName rfl rfl ?_) ?_
    · exact fun t => bind_return (bind_return (text_string t) some) _
    refine Eq.trans (record_cons rfl (by cases aliasName <;> rfl)
      (bind_return (Schema.ofNode_toJson schema) _)) ?_
    exact record_cons rfl (by cases aliasName <;> rfl) (bind_return hstyle _)
  rw [ofNode, hrecord]
  rfl

theorem toJson_isNumberless (o : Options) : o.toJson.isNumberless = true := by
  have hschema := Schema.toJson_isNumberless o.schema
  cases h : o.aliasName <;>
    simp [toJson, h, optionalMember, isNumberless, membersNumberless, hschema]

/-- Options are read back from their text as they are. -/
theorem parse_toJson (o : Options) : parse o.toJson.compact = .ok o := by
  rw [parse, decode_compact _ o.toJson_isNumberless, ofNode_toJson]

end Options

end RequestSql
