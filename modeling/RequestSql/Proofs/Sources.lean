import RequestSql.Proofs.Directives
import RequestSql.Proofs.Encoding

namespace RequestSql

namespace Json

variable {key : Text} {value : Json} {members : List (Text × Json)} {m : Text × Json}

theorem mem_insertMember (h : m ∈ insertMember key value members) :
    m = (key, value) ∨ m ∈ members := by
  induction members with
  | nil => exact .inl (List.mem_singleton.mp h)
  | cons first rest ih =>
    obtain ⟨k, v⟩ := first
    unfold insertMember at h
    split at h
    · exact (List.mem_cons.mp h).imp_right (List.mem_cons_of_mem _)
    · split at h
      · exact List.mem_cons.mp h
      · rcases List.mem_cons.mp h with h | h
        · exact .inr (h ▸ List.mem_cons_self)
        · exact (ih h).imp_right (List.mem_cons_of_mem _)

theorem mem_names_insertMember {name : Text} (h : name = key ∨ name ∈ members.map Prod.fst) :
    name ∈ (insertMember key value members).map Prod.fst := by
  induction members with
  | nil => simpa [insertMember] using h
  | cons first rest ih =>
    obtain ⟨k, v⟩ := first
    simp only [List.map_cons, List.mem_cons] at h
    unfold insertMember
    split
    · rename_i hk
      subst hk
      simpa using h
    · split
      · simpa using h
      · rw [List.map_cons, List.mem_cons]
        rcases h with h | h | h
        · exact .inr (ih (.inl h))
        · exact .inl h
        · exact .inr (ih (.inr h))

end Json

namespace Params

def jsonValues (p : Params) (name : Text) : Json :=
  .array ((p.getAll name).map .string)

/-- The members for the names of some of the pairs, in increasing order of the names. -/
def jsonMembers (p : Params) (pairs : List (Text × Text)) : List (Text × Json) :=
  pairs.foldl (fun members pair => Json.insertMember pair.1 (p.jsonValues pair.1) members) []

def toJson (p : Params) : Json :=
  .object (p.jsonMembers p.pairs)

variable {p : Params} {name : Text}

/-- Every member holds the values of its name, and every name among the pairs has a member. -/
theorem jsonMembers_values (p : Params) (pairs : List (Text × Text)) :
    (∀ m ∈ p.jsonMembers pairs, m.2 = p.jsonValues m.1) ∧
      ∀ pair ∈ pairs, pair.1 ∈ (p.jsonMembers pairs).map Prod.fst := by
  induction pairs using List.reverseRecOn with
  | nil => simp [jsonMembers]
  | append_singleton pairs last ih =>
    have hinsert : p.jsonMembers (pairs ++ [last]) =
        Json.insertMember last.1 (p.jsonValues last.1) (p.jsonMembers pairs) := by
      simp [jsonMembers]
    rw [hinsert]
    refine ⟨fun m hm => ?_, fun pair hp => Json.mem_names_insertMember ?_⟩
    · rcases Json.mem_insertMember hm with rfl | hm
      · rfl
      · exact ih.1 m hm
    · rcases List.mem_append.mp hp with hp | hp
      · exact .inr (ih.2 pair hp)
      · exact .inl (by rw [List.mem_singleton.mp hp])

def spread (p : Params) (members : List (Text × Json)) : List (Text × Text) :=
  members.flatMap fun m => (p.getAll m.1).map (m.1, ·)

theorem pairs_eq_spread {members : List (Text × Json)}
    (h : ∀ m ∈ members, m.2 = p.jsonValues m.1) :
    Source.pairs members = .ok (p.spread members) := by
  have hvalues : ∀ (name : Text) (ts : List Text),
      Source.values name (.array (ts.map .string)) = .ok ts := by
    intro name ts
    refine mapM_eq_ok.mpr ?_
    rw [List.forall₂_map_left_iff]
    exact List.forall₂_same.mpr fun _ _ => rfl
  induction members with
  | nil => rfl
  | cons m rest ih =>
    obtain ⟨name, value⟩ := m
    obtain ⟨hm, hrest⟩ := List.forall_mem_cons.mp h
    have hm : value = p.jsonValues name := hm
    subst hm
    rw [Source.pairs, jsonValues, hvalues, ih hrest]
    rfl

theorem get?_values (name other : Text) :
    (⟨(p.getAll other).map (other, ·)⟩ : Params).get? name =
      if other = name then p.get? name else none := by
  by_cases h : other = name
  · subst h
    have hfilter : ((p.getAll other).map (other, ·)).filter (fun pair => pair.1 == other) =
        (p.getAll other).map (other, ·) := by
      simp
    rw [if_pos rfl, get?, getAll, hfilter, List.map_map]
    exact congrArg List.getLast? (List.map_id _)
  · simp [get?, getAll, h]

/-- An object of values has the last values that the parameters have. -/
theorem get?_spread (members : List (Text × Json)) :
    (⟨p.spread members⟩ : Params).get? name =
      if name ∈ members.map Prod.fst then p.get? name else none := by
  induction members with
  | nil => rfl
  | cons m rest ih =>
    rw [spread, List.flatMap_cons, get?_append, get?_values]
    rw [spread] at ih
    rw [ih]
    simp only [List.map_cons, List.mem_cons]
    by_cases hr : name ∈ rest.map Prod.fst
    · by_cases hm : m.1 = name
      · simp only [hm, hr, if_true, or_true, Option.or_self]
      · simp only [hm, hr, if_true, if_false, or_true, Option.or_none]
    · simp only [hr, if_false, or_false, Option.none_or, eq_comm]

theorem spread_agreeOn : (⟨p.spread (p.jsonMembers p.pairs)⟩ : Params).AgreeOn p name := by
  left
  rw [get?_spread]
  by_cases h : name ∈ (p.jsonMembers p.pairs).map Prod.fst
  · rw [if_pos h]
  · -- A name without a member has no values.
    have hnone : p.getAll name = [] := by
      rw [getAll, List.map_eq_nil_iff, List.filter_eq_nil_iff]
      intro pair hp hname
      rw [← beq_iff_eq.mp hname] at h
      exact h ((p.jsonMembers_values p.pairs).2 pair hp)
    rw [if_neg h, get?, hnone]
    rfl

/-- An object of arrays is no URL, whatever its names are. -/
theorem ofJson_toJson (p : Params) :
    Source.ofJson p.toJson = .ok (.params ⟨p.spread (p.jsonMembers p.pairs)⟩) := by
  have hvalues := (p.jsonMembers_values p.pairs).1
  have hurl : ∀ t, (p.jsonMembers p.pairs).lookup "url".toList ≠ some (.string t) := by
    intro t h
    obtain ⟨before, after, hm, _⟩ := List.lookup_eq_some_iff.mp h
    have hv := hvalues ("url".toList, .string t) (by simp [hm])
    cases hv
  rw [toJson, Source.ofJson]
  split
  · rename_i t h
    exact absurd h (hurl t)
  · rw [pairs_eq_spread hvalues]
    rfl

theorem parse_serialize (p : Params) : Params.parse (Form.serialize p.pairs) = p := by
  have hmark : '?' ∉ Form.serialize p.pairs := fun h =>
    (Form.serialize_isQueryChar p.pairs _ h).2 rfl
  unfold Params.parse
  split
  · rename_i h
    exact absurd (h ▸ List.mem_cons_self) hmark
  · rw [Form.parse_serialize]

end Params

/-- Parameters, their encoded query, a URL with that query and an object of their values have one
outcome, be it a query or an error. -/
theorem sources_agree (o : Options) (p : Params) :
    compile o (.query (Form.serialize p.pairs)) = compile o (.params p) ∧
      compile o (.url ("/t?".toList ++ Form.serialize p.pairs)) = compile o (.params p) ∧
      (Source.ofJson p.toJson >>= compile o) = compile o (.params p) := by
  refine ⟨?_, ?_, ?_⟩
  · rw [compile, compile, Source.toParams, Params.parse_serialize]
    rfl
  · have hquery := Url.query_eq_self fun c hc => (Form.serialize_isQueryChar p.pairs c hc).1
    simp only [compile, Source.toParams, hquery, Form.parse_serialize]
  · rw [Params.ofJson_toJson]
    exact compileParams_congr fun d => Params.spread_agreeOn

end RequestSql
