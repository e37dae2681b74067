import RequestSql.Proofs.Names

namespace RequestSql

def Table.texts (t : Table) : List Text :=
  t.aliasName.toList ++
    t.joins.entries.flatMap fun (name, spec) => name :: spec.predicate :: spec.aliasName.toList

def Schema.texts (s : Schema) : List Text :=
  s.tables.entries.flatMap fun (name, t) => name :: t.texts

def Table.names (t : Table) : List Text :=
  t.aliasName.toList ++
    t.joins.entries.flatMap fun (name, spec) => name :: spec.aliasName.toList

def Schema.names (s : Schema) : List Text :=
  s.tables.entries.flatMap fun (name, t) => name :: t.names

/-- A character that some name of a table, alias or join predicate has. -/
def Schema.Mentions (s : Schema) (c : Char) : Prop :=
  ∃ t ∈ s.texts, c ∈ t

instance (s : Schema) (c : Char) : Decidable (s.Mentions c) :=
  inferInstanceAs (Decidable (∃ t ∈ s.texts, c ∈ t))

namespace PlannedJoin

def opening (j : PlannedJoin) : Text :=
  j.spec.kind.sql ++ " JOIN ".toList ++ j.table ++
    if j.aliasName = j.table then [] else ' ' :: j.aliasName

def condition (j : PlannedJoin) : Text :=
  if j.spec.kind = .cross then [] else " ON ".toList ++ j.spec.predicate

theorem sql_eq (j : PlannedJoin) : j.sql = j.opening ++ j.condition :=
  rfl

end PlannedJoin

def Text.isSqlChar (c : Char) : Bool :=
  isNameChar c || " ,()*=<>".toList.contains c

section Schemas

variable {s : Schema} {name : Text} {t : Table}

theorem mem_of_lookup {α : Type} {a : α} {entries : List (Text × α)}
    (h : entries.lookup name = some a) : (name, a) ∈ entries := by
  obtain ⟨before, after, rfl, _⟩ := List.lookup_eq_some_iff.mp h
  simp

theorem Schema.mem_texts_of_mem_names {u : Text} (h : u ∈ s.names) : u ∈ s.texts := by
  simp only [names, texts, Table.names, Table.texts, List.mem_flatMap, List.mem_cons,
    List.mem_append] at h ⊢
  obtain ⟨entry, he, hu | hu | ⟨j, hj, hu⟩⟩ := h
  · exact ⟨entry, he, .inl hu⟩
  · exact ⟨entry, he, .inr (.inl hu)⟩
  · exact ⟨entry, he, .inr (.inr ⟨j, hj, hu.imp_right .inr⟩)⟩

theorem Schema.name_mem_names (h : (name, t) ∈ s.tables.entries) : name ∈ s.names :=
  List.mem_flatMap.mpr ⟨_, h, List.mem_cons_self⟩

theorem Schema.text_mem_names {u : Text} (h : (name, t) ∈ s.tables.entries) (hu : u ∈ t.names) :
    u ∈ s.names :=
  List.mem_flatMap.mpr ⟨_, h, List.mem_cons_of_mem _ hu⟩

theorem Schema.qualifier_mem_names (h : name ∈ s.names) : s.qualifier name ∈ s.names := by
  unfold Schema.qualifier
  cases ht : s.get? name with
  | none => exact h
  | some t =>
    cases ha : t.aliasName with
    | none => simpa [ha] using h
    | some a =>
      have hu : a ∈ t.names := List.mem_append_left _ (by simp [ha])
      simpa [ha] using Schema.text_mem_names (mem_of_lookup ht) hu

end Schemas

section Joins

variable {s : Scope} {name : Text} {spec : JoinSpec}

theorem Scope.mem_of_declaredJoins (h : (name, spec) ∈ s.declaredJoins) :
    ∃ t, (s.table, t) ∈ s.schema.tables.entries ∧ (name, spec) ∈ t.joins.entries := by
  unfold Scope.declaredJoins at h
  split at h
  · rename_i t ht
    exact ⟨t, mem_of_lookup ht, h⟩
  · cases h

theorem Scope.declaredJoins_names (h : (name, spec) ∈ s.declaredJoins) :
    ∀ u ∈ name :: spec.aliasName.toList, u ∈ s.schema.names := by
  obtain ⟨t, ht, hj⟩ := mem_of_declaredJoins h
  intro u hu
  refine Schema.text_mem_names ht (List.mem_append_right _ ?_)
  exact List.mem_flatMap.mpr ⟨_, hj, hu⟩

theorem Scope.predicate_mem_texts (h : (name, spec) ∈ s.declaredJoins) :
    spec.predicate ∈ s.schema.texts := by
  obtain ⟨t, ht, hj⟩ := mem_of_declaredJoins h
  refine List.mem_flatMap.mpr ⟨_, ht, List.mem_cons_of_mem _ (List.mem_append_right _ ?_)⟩
  exact List.mem_flatMap.mpr ⟨_, hj, by simp⟩

theorem Scope.joinQualifier_mem_names (h : (name, spec) ∈ s.declaredJoins) :
    s.schema.joinQualifier name spec ∈ s.schema.names := by
  have hu := declaredJoins_names h
  unfold Schema.joinQualifier
  cases ha : spec.aliasName with
  | none => exact Schema.qualifier_mem_names (hu name (by simp))
  | some a => exact hu a (by simp [ha])

theorem Scope.joinAlias_mem_names {a : Text} (h : s.joinAlias? name = some a) :
    a ∈ s.schema.names := by
  obtain ⟨spec, hs, rfl⟩ := Option.map_eq_some_iff.mp h
  exact joinQualifier_mem_names (mem_of_lookup hs)

theorem Scope.owner_mem {field : Text} (h : s.owner? field = some name) :
    ∃ t, (name, t) ∈ s.schema.tables.entries := by
  obtain ⟨⟨n, t⟩, hf, rfl⟩ := Option.map_eq_some_iff.mp h
  exact ⟨t, List.mem_of_find?_eq_some hf⟩

theorem Scope.mem_plan {references expanded : List Text} {j : PlannedJoin}
    (h : j ∈ s.plan references expanded) :
    (j.table, j.spec) ∈ s.declaredJoins ∧ j.aliasName = s.schema.joinQualifier j.table j.spec := by
  obtain ⟨⟨name, spec⟩, hm, rfl⟩ := List.mem_map.mp h
  exact ⟨(List.mem_filter.mp hm).1, rfl⟩

end Joins

section Words

theorem Text.toNat_lt_of_isAlphanum {c : Char} (h : (c.isAlphanum || c == '_') = true) :
    c.toNat < 128 := by
  simp only [Char.isAlphanum, Bool.or_eq_true, isAlpha_iff, isDigit_iff, beq_iff_eq] at h
  rcases h with h | rfl
  · omega
  · decide

/-- Within ASCII, upper case changes every character by itself. -/
theorem Text.upper_eq_asciiUpper {t : Text} (h : ∀ c ∈ t, (c.isAlphanum || c == '_') = true) :
    upper t = asciiUpper t := by
  induction t with
  | nil => rfl
  | cons c t ih =>
    obtain ⟨hc, ht⟩ := List.forall_mem_cons.mp h
    have hchar : upperChar c = [c.toUpper] := by rw [upperChar, if_pos (toNat_lt_of_isAlphanum hc)]
    have hrest : t.flatMap upperChar = asciiUpper t := ih ht
    rw [upper, List.flatMap_cons, hchar, hrest]
    rfl

/-- Upper case keeps ASCII names what they are. -/
theorem Text.upper_isName {t : Text} (h : ∀ c ∈ t, (c.isAlphanum || c == '_') = true) :
    (upper t).IsName := by
  have hascii : ∀ n : Fin 128, ((Char.ofNat n).isAlphanum || Char.ofNat n == '_') = true →
      isNameChar (Char.ofNat n).toUpper = true := by decide
  rw [upper_eq_asciiUpper h]
  intro d hd
  obtain ⟨c, hc, rfl⟩ := List.mem_map.mp hd
  have hu := hascii ⟨c.toNat, toNat_lt_of_isAlphanum (h c hc)⟩
  rw [Char.ofNat_toNat] at hu
  exact hu (h c hc)

theorem AggregateFunction.ofName_isName {name : Text} (h : Name.isWord name = true) :
    (ofName name).sql ≠ [] ∧ (ofName name).sql.IsName := by
  have hchars := Name.isWord_chars h
  have hupper : Text.upper name ≠ [] := by
    rw [Text.upper_eq_asciiUpper hchars]
    cases name with
    | nil => cases h
    | cons c rest => exact List.cons_ne_nil _ _
  have hfixed : ∀ t : Text, (!t.isEmpty && t.all Text.isNameChar) = true → t ≠ [] ∧ t.IsName := by
    intro t ht
    rw [Bool.and_eq_true, List.all_eq_true] at ht
    refine ⟨?_, ht.2⟩
    rintro rfl
    exact absurd ht.1 (by decide)
  unfold ofName
  repeat' split
  all_goals first
    | exact hfixed _ (by decide)
    | exact ⟨hupper, Text.upper_isName hchars⟩

theorem OrderBy.isDirection_isName {word : Text} (h : isDirection word = true) : word.IsName := by
  intro c hc
  have hl : Text.isNameChar c.toLower = true := by
    rw [isDirection, Bool.or_eq_true, beq_iff_eq, beq_iff_eq] at h
    have hm : c.toLower ∈ Text.asciiLower word := List.mem_map.mpr ⟨c, hc, rfl⟩
    rcases h with h | h
    · rw [h] at hm
      exact List.all_eq_true.mp (by decide : "asc".toList.all Text.isNameChar = true) _ hm
    · rw [h] at hm
      exact List.all_eq_true.mp (by decide : "desc".toList.all Text.isNameChar = true) _ hm
  by_cases hu : c.isUpper = true
  · have ha : c.isAlpha = true := Bool.or_eq_true_iff.mpr (.inl hu)
    simp [Text.isNameChar, Text.isNamePart, Text.isAlphanumeric, Text.isAlphabetic_of_isAlpha ha]
  · have hc : c.toLower = c := by
      unfold Char.toLower
      split
      · rename_i hc
        exact absurd (decide_eq_true hc) hu
      · rfl
    rwa [hc] at hl

theorem Text.ofNat_isName (n : Nat) : (ofNat n).IsName := by
  intro c hc
  have hd := Nat.isDigit_of_mem_toDigits (by omega) (by omega) hc
  simp [isNameChar, isNamePart, isAlphanumeric, isNumeric_of_isDigit hd]

end Words

/-- A property of characters that holds of the text around names, of names, and of the names in a
schema. Every text of a statement but for the predicates of its joins then has it. -/
structure AdmitsNames (P : Char → Prop) (s : Schema) : Prop where
  sql : ∀ c, Text.isSqlChar c = true → P c
  names : ∀ t ∈ s.names, ∀ c ∈ t, P c

structure Admits (P : Char → Prop) (s : Schema) : Prop where
  sql : ∀ c, Text.isSqlChar c = true → P c
  schema : ∀ c, s.Mentions c → P c

theorem Admits.toNames {P : Char → Prop} {s : Schema} (h : Admits P s) : AdmitsNames P s where
  sql := h.sql
  names t ht c hc := h.schema c ⟨t, Schema.mem_texts_of_mem_names ht, hc⟩

namespace AdmitsNames

variable {P : Char → Prop}

section Parts

variable {s : Schema} (h : AdmitsNames P s) {t : Text}

include h

theorem fixed (t : Text) (ht : t.all Text.isSqlChar = true) : ∀ c ∈ t, P c :=
  fun c hc => h.sql c (List.all_eq_true.mp ht c hc)

theorem name (ht : t.IsName) : ∀ c ∈ t, P c :=
  fun c hc => h.sql c (by simp [Text.isSqlChar, ht c hc])

theorem commaList {entries : List Text} (he : ∀ t ∈ entries, ∀ c ∈ t, P c) :
    ∀ c ∈ Text.commaList entries, P c := by
  intro c hc
  rcases Text.mem_intercalate hc with hc | ⟨t, ht, hc⟩
  · exact h.fixed [',', ' '] (by decide) c hc
  · exact he t ht c hc

theorem listClause {word : Text} {entries : List Text} (hw : word.all Text.isSqlChar = true)
    (he : ∀ t ∈ entries, ∀ c ∈ t, P c) : ∀ c ∈ Statement.listClause word entries, P c := by
  unfold Statement.listClause
  split
  · simp
  · exact List.forall_mem_append.mpr ⟨h.fixed word hw, h.commaList he⟩

theorem numberClause {word : Text} (hw : word.all Text.isSqlChar = true) (n : Option Nat) :
    ∀ c ∈ Statement.numberClause word n, P c := by
  unfold Statement.numberClause
  split
  · rename_i n
    exact List.forall_mem_append.mpr ⟨h.fixed word hw, h.name (Text.ofNat_isName n)⟩
  · simp

theorem tableText {st : Statement} (ht : ∀ c ∈ st.table, P c)
    (ha : ∀ a ∈ st.aliasName, ∀ c ∈ a, P c) : ∀ c ∈ st.tableText, P c := by
  unfold Statement.tableText
  split
  · rename_i a haa
    split
    · exact ht
    · exact List.forall_mem_append.mpr
        ⟨ht, List.forall_mem_cons.mpr ⟨h.sql ' ' (by decide), ha a haa⟩⟩
  · exact ht

theorem head {st : Statement} (hc : ∀ c ∈ st.columns, ∀ d ∈ c.sql, P d)
    (ht : ∀ c ∈ st.tableText, P c) (hj : ∀ j ∈ st.joins, ∀ c ∈ j.sql, P c) :
    ∀ c ∈ st.head, P c := by
  have hcolumns : ∀ c ∈ Text.commaList (st.columns.map Column.sql), P c := by
    refine h.commaList fun t ht => ?_
    obtain ⟨c, hm, rfl⟩ := List.mem_map.mp ht
    exact hc c hm
  refine List.forall_mem_append.mpr ⟨List.forall_mem_append.mpr ⟨List.forall_mem_append.mpr
    ⟨List.forall_mem_append.mpr ⟨h.fixed "SELECT ".toList (by decide), hcolumns⟩,
      h.fixed " FROM ".toList (by decide)⟩, ht⟩, ?_⟩
  · intro c hm
    obtain ⟨j, hjm, hm⟩ := List.mem_flatMap.mp hm
    rcases List.mem_cons.mp hm with rfl | hm
    · exact h.sql ' ' (by decide)
    · exact hj j hjm c hm

theorem aggregate {a : Aggregate} (hf : ∃ name, Name.isWord name = true ∧ a.function = .ofName name)
    (ha : Name.isIdentifier a.aliasName = true) (ho : ∀ c ∈ a.operand.text, P c) :
    ∀ c ∈ a.sql, P c := by
  obtain ⟨name, hw, hfun⟩ := hf
  have hsql : a.function.sql.IsName := by
    rw [hfun]
    exact (AggregateFunction.ofName_isName hw).2
  simp only [Aggregate.sql, Aggregate.sqlOver, List.forall_mem_append, List.forall_mem_cons]
  exact ⟨⟨⟨h.name hsql, h.sql '(' (by decide), ho⟩, h.fixed ") AS ".toList (by decide)⟩,
    h.name (Name.isIdentifier_isName ha)⟩

theorem filter {e : Filter} (he : ∀ field ∈ e.fields, ∀ c ∈ field, P c) :
    ∀ t, .text t ∈ e.fragment → ∀ c ∈ t, P c := by
  fun_induction Filter.fragment e with
  | case1 field op value =>
    have hop : (' ' :: op.sql ++ [' ']).all Text.isSqlChar = true := by
      cases op <;> decide
    intro t ht
    simp only [List.mem_cons, Piece.text.injEq, reduceCtorEq, List.not_mem_nil, or_false] at ht
    rcases ht with rfl | rfl
    · exact he t (by simp [Filter.fields])
    · exact h.fixed _ hop
  | case2 op left right ihl ihr =>
    have hop : (' ' :: op.sql ++ [' ']).all Text.isSqlChar = true := by
      cases op <;> decide
    obtain ⟨hl, hr⟩ := List.forall_mem_append.mp he
    intro t ht
    simp only [List.mem_append, List.mem_cons, Piece.text.injEq, List.not_mem_nil,
      or_false] at ht
    rcases ht with ((rfl | ht) | rfl | ht) | rfl
    · exact h.fixed _ (by decide)
    · exact ihl hl t ht
    · exact h.fixed _ hop
    · exact ihr hr t ht
    · exact h.fixed _ (by decide)
  | case3 op left right ih =>
    intro t ht
    simp only [List.mem_cons, Piece.text.injEq] at ht
    rcases ht with rfl | ht
    · exact h.fixed _ (by decide)
    · exact ih he t ht
  | case4 inner _ ih =>
    intro t ht
    simp only [List.mem_append, List.mem_cons, Piece.text.injEq, List.not_mem_nil,
      or_false] at ht
    rcases ht with (rfl | ht) | rfl
    · exact h.fixed _ (by decide)
    · exact ih he t ht
    · exact h.fixed _ (by decide)

end Parts

section Scopes

variable {s : Scope} (h : AdmitsNames P s.schema) (ha : ∀ a ∈ s.aliasName, a.IsName)

include h

/-- What stands before the predicate of a join. -/
theorem joinOpening {j : PlannedJoin} {references expanded : List Text}
    (hj : j ∈ s.plan references expanded) : ∀ c ∈ j.opening, P c := by
  obtain ⟨hd, hq⟩ := Scope.mem_plan hj
  have hkind : j.spec.kind.sql.all Text.isSqlChar = true := by
    cases j.spec.kind <;> decide
  have htable : ∀ c ∈ j.table, P c := h.names _ (Scope.declaredJoins_names hd _ (by simp))
  have halias : ∀ c ∈ j.aliasName, P c := by
    rw [hq]
    exact h.names _ (Scope.joinQualifier_mem_names hd)
  simp only [PlannedJoin.opening, List.forall_mem_append]
  refine ⟨⟨⟨h.fixed _ hkind, h.fixed " JOIN ".toList (by decide)⟩, htable⟩, ?_⟩
  split
  · simp
  · exact List.forall_mem_cons.mpr ⟨h.sql ' ' (by decide), halias⟩

include ha

theorem tableQualifier {field name : Text} (ho : s.owner? field = some name) :
    ∀ c ∈ s.tableQualifier name, P c := by
  obtain ⟨t, ht⟩ := Scope.owner_mem ho
  have hname := Schema.name_mem_names ht
  unfold Scope.tableQualifier
  split
  · cases haa : s.aliasName with
    | none => exact h.names _ hname
    | some a => exact h.name (ha a (by simp [haa]))
  · cases hj : s.joinAlias? name with
    | none => exact h.names _ (Schema.qualifier_mem_names hname)
    | some a => exact h.names _ (Scope.joinAlias_mem_names hj)

/-- A resolved field is made of the field, of names and of texts of the schema. -/
theorem resolve {field : Text} (hf : ∀ c ∈ field, P c) : ∀ c ∈ s.resolve field, P c := by
  unfold Scope.resolve
  split
  · exact hf
  · split
    · rename_i name ho
      exact List.forall_mem_append.mpr ⟨h.tableQualifier ha ho,
        List.forall_mem_cons.mpr ⟨h.sql '.' (by decide), hf⟩⟩
    · refine List.forall_mem_append.mpr ⟨?_, hf⟩
      unfold Scope.defaultQualifier
      split
      · rename_i a haa
        exact List.forall_mem_append.mpr ⟨h.name (ha a (by simp [haa])),
          h.fixed ['.'] (by decide)⟩
      · simp

theorem column {c : Column}
    (hc : c = .all ∨ ∃ name, c = .field name ∧ Name.isIdentifier name = true) :
    ∀ d ∈ (c.map s.resolve).sql, P d := by
  rcases hc with rfl | ⟨name, rfl, hn⟩
  · exact h.fixed ['*'] (by decide)
  · exact h.resolve ha (h.name (Name.isIdentifier_isName hn))

theorem groupedColumns {g : Grouping} (hf : ∀ f ∈ g.fields, Name.isIdentifier f = true)
    (hg : ∀ a ∈ g.aggregates, a.Named) :
    ∀ c ∈ (s.groupedProjection g).columns, ∀ d ∈ c.sql, P d := by
  refine List.forall_mem_append.mpr ⟨?_, ?_⟩
  · intro c hc
    obtain ⟨key, hk, rfl⟩ := List.mem_map.mp hc
    obtain ⟨f, hm, rfl⟩ := List.mem_map.mp hk
    exact h.column ha (.inr ⟨f, rfl, hf f hm⟩)
  · intro c hc
    obtain ⟨a, hm, rfl⟩ := List.mem_map.mp hc
    obtain ⟨operand, function, aliasName⟩ := hg a hm
    refine h.aggregate (a := { a with operand := a.operand.map s.resolve }) function aliasName ?_
    rcases operand with ho | ⟨name, ho, hn⟩
    · rw [ho]
      exact h.fixed ['*'] (by decide)
    · rw [ho]
      exact h.resolve ha (h.name (Name.isIdentifier_isName hn))

omit ha in
theorem expansionColumns {e : Expansion} (ht : Name.isIdentifier e.table = true)
    (hs : ∀ f ∈ e.selects, Name.isIdentifier f = true) :
    ∀ c ∈ s.expansionColumns e, ∀ d ∈ c.sql, P d := by
  intro c hc
  obtain ⟨f, hf, rfl⟩ := List.mem_map.mp hc
  have hname := h.name (Name.isIdentifier_isName (hs f hf))
  simp only [Column.sql]
  split
  · exact hname
  · refine List.forall_mem_append.mpr ⟨?_, List.forall_mem_cons.mpr
      ⟨h.sql '.' (by decide), hname⟩⟩
    cases hj : s.joinAlias? e.table with
    | none => exact h.name (Name.isIdentifier_isName ht)
    | some a => exact h.names _ (Scope.joinAlias_mem_names hj)

end Scopes

end AdmitsNames

theorem Admits.join {P : Char → Prop} {s : Scope} (h : Admits P s.schema) {j : PlannedJoin}
    {references expanded : List Text} (hj : j ∈ s.plan references expanded) :
    ∀ c ∈ j.sql, P c := by
  rw [j.sql_eq]
  refine List.forall_mem_append.mpr ⟨h.toNames.joinOpening hj, ?_⟩
  unfold PlannedJoin.condition
  split
  · simp
  · refine List.forall_mem_append.mpr ⟨h.toNames.fixed " ON ".toList (by decide), ?_⟩
    exact fun c hc => h.schema c ⟨_, Scope.predicate_mem_texts (Scope.mem_plan hj).1, hc⟩

namespace Options.Stages

variable {o : Options} {given : Directives}

theorem alias_isName (s : o.Stages given) : ∀ a ∈ o.scope.aliasName, a.IsName :=
  fun a ha => Name.isIdentifier_isName ((check_names s.checked).2 a ha)

theorem expansion_names (s : o.Stages given) : ∀ e ∈ s.expansions,
    Name.isIdentifier e.table = true ∧ ∀ f ∈ e.selects, Name.isIdentifier f = true := by
  obtain ⟨found, hf, he⟩ := s.expansions_read
  rw [he]
  cases hg : given .expand with
  | none =>
    rw [Directives.read_absent hf hg]
    simp
  | some value =>
    obtain ⟨expansions, hp, rfl⟩ := Directives.read_given hf hg
    exact Expand.parse_names hp

section Names

variable {P : Char → Prop} (s : o.Stages given) (h : AdmitsNames P o.schema)

include s h

theorem selected_over {selected : Option (List Column)}
    (hs : given.read .select Select.parse = .ok selected) :
    ∀ c ∈ selected.getD [.all], ∀ d ∈ (c.map o.scope.resolve).sql, P d := by
  intro c hc
  refine AdmitsNames.column (s := o.scope) h s.alias_isName ?_
  cases hg : given .select with
  | none =>
    rw [Directives.read_absent hs hg] at hc
    exact .inl (List.mem_singleton.mp hc)
  | some value =>
    obtain ⟨columns, hp, rfl⟩ := Directives.read_given hs hg
    exact Select.parse_names hp c hc

theorem columns_over : ∀ c ∈ s.projection.columns, ∀ d ∈ c.sql, P d := by
  cases hg : given .apply with
  | some value =>
    obtain ⟨g, hp, hs⟩ := s.projection_grouped hg
    obtain ⟨hfields, haggregates⟩ := Apply.parse_names hp
    rw [hs]
    exact AdmitsNames.groupedColumns (s := o.scope) h s.alias_isName hfields haggregates
  | none =>
    obtain ⟨selected, hselected, hs⟩ := s.projection_plain hg
    rw [hs]
    refine List.forall_mem_append.mpr ⟨?_, ?_⟩
    · intro c hc
      obtain ⟨column, hm, rfl⟩ := List.mem_map.mp hc
      exact s.selected_over h hselected column hm
    · intro c hc
      obtain ⟨e, he, hc⟩ := List.mem_flatMap.mp hc
      obtain ⟨ht, hs⟩ := s.expansion_names e he
      exact AdmitsNames.expansionColumns (s := o.scope) h ht hs c hc

theorem groupBy_over : ∀ t ∈ s.projection.groupBy, ∀ c ∈ t, P c := by
  cases hg : given .apply with
  | some value =>
    obtain ⟨g, hp, hs⟩ := s.projection_grouped hg
    rw [hs]
    intro t ht
    obtain ⟨f, hf, rfl⟩ := List.mem_map.mp ht
    have hname := Name.isIdentifier_isName ((Apply.parse_names hp).1 f hf)
    exact AdmitsNames.resolve (s := o.scope) h s.alias_isName (h.name hname)
  | none =>
    obtain ⟨selected, _, hs⟩ := s.projection_plain hg
    simp [hs, Scope.plainProjection]

theorem filter_over {e : Filter} (he : s.filter = some e) :
    ∀ field ∈ e.fields, ∀ c ∈ field, P c := by
  cases hg : given .filter with
  | none =>
    rw [s.filter_absent hg] at he
    cases he
  | some value =>
    obtain ⟨parsed, hp, hs⟩ := s.filter_given hg
    rw [hs] at he
    cases he
    rw [Filter.fields_mapFields]
    intro field hf
    obtain ⟨f, hm, rfl⟩ := List.mem_map.mp hf
    exact AdmitsNames.resolve (s := o.scope) h s.alias_isName (h.name (Filter.parse_fields hp f hm).2)

theorem orderBy_over : ∀ t ∈ s.clauses.orderBy.map SortKey.sql, ∀ c ∈ t, P c := by
  cases hg : given .orderBy with
  | none => simp [s.orderBy_absent hg]
  | some value =>
    obtain ⟨keys, hp, hs⟩ := s.orderBy_given hg
    rw [hs]
    intro t ht
    obtain ⟨key, hkey, rfl⟩ := List.mem_map.mp ht
    obtain ⟨k, hk, rfl⟩ := List.mem_map.mp hkey
    obtain ⟨hf, hd⟩ := OrderBy.parse_names hp k hk
    have hfield := AdmitsNames.resolve (s := o.scope) h s.alias_isName
      (h.name (Name.isIdentifier_isName hf))
    unfold SortKey.sql
    split
    · rename_i direction hdir
      exact List.forall_mem_append.mpr ⟨hfield, List.forall_mem_cons.mpr ⟨h.sql ' ' (by decide),
        h.name (OrderBy.isDirection_isName (hd direction hdir))⟩⟩
    · exact hfield

theorem tail_over_names : ∀ c ∈ s.statement.tail, P c := by
  simp only [Statement.tail, List.forall_mem_append]
  exact ⟨⟨⟨h.listClause (by decide) (s.groupBy_over h),
    h.listClause (by decide) (s.orderBy_over h)⟩,
    h.numberClause (by decide) _⟩, h.numberClause (by decide) _⟩

/-- Every text of the condition has the property. -/
theorem condition_over : ∀ t, .text t ∈ s.statement.condition → ∀ c ∈ t, P c := by
  intro t ht
  unfold Statement.condition at ht
  split at ht
  · rename_i e he
    rcases List.mem_cons.mp ht with ht | ht
    · cases ht
      exact h.fixed " WHERE ".toList (by decide)
    · exact h.filter (s.filter_over h he) t ht
  · cases ht

theorem tableText_over : ∀ c ∈ s.statement.tableText, P c :=
  h.tableText (h.name (Name.isIdentifier_isName (check_names s.checked).1))
    fun a ha => h.name (s.alias_isName a ha)

end Names

variable {P : Char → Prop} (s : o.Stages given) (h : Admits P o.schema)

include s h

theorem head_over : ∀ c ∈ s.statement.head, P c :=
  h.toNames.head (s.columns_over h.toNames) (s.tableText_over h.toNames)
    fun _ hj => Admits.join (s := o.scope) h hj

theorem tail_over : ∀ c ∈ s.statement.tail, P c :=
  s.tail_over_names h.toNames

/-- Every text of a statement has the property. -/
theorem statement_over : ∀ t, .text t ∈ s.statement.fragment → ∀ c ∈ t, P c := by
  intro t ht
  simp only [Statement.fragment, List.mem_append, List.mem_cons, Piece.text.injEq,
    List.not_mem_nil, or_false] at ht
  rcases ht with (rfl | ht) | rfl
  · exact s.head_over h
  · exact s.condition_over h.toNames t ht
  · exact s.tail_over h

end Options.Stages

section Rendering

variable {c : Char}

theorem PlaceholderStyle.mem_placeholder {style : PlaceholderStyle} {n : Nat}
    (h : c ∈ style.placeholder n) : c = '?' ∨ c = '$' ∨ c.isDigit = true := by
  cases style with
  | mysql => exact .inl (List.mem_singleton.mp h)
  | postgres =>
    rcases List.mem_cons.mp h with h | h
    · exact .inr (.inl h)
    · exact .inr (.inr (Nat.isDigit_of_mem_toDigits (by omega) (by omega) h))

theorem Fragment.mem_renderFrom {style : PlaceholderStyle} {n : Nat} {f : Fragment}
    (h : c ∈ f.renderFrom style n) :
    (∃ t, .text t ∈ f ∧ c ∈ t) ∨ c = '?' ∨ c = '$' ∨ c.isDigit = true := by
  induction f generalizing n with
  | nil => cases h
  | cons piece f ih =>
    cases piece with
    | text t =>
      rcases List.mem_append.mp h with h | h
      · exact .inl ⟨t, List.mem_cons_self, h⟩
      · exact (ih h).imp_left fun ⟨u, hu, hc⟩ => ⟨u, List.mem_cons_of_mem _ hu, hc⟩
    | parameter v =>
      rcases List.mem_append.mp h with h | h
      · exact .inr (PlaceholderStyle.mem_placeholder h)
      · exact (ih h).imp_left fun ⟨u, hu, hc⟩ => ⟨u, List.mem_cons_of_mem _ hu, hc⟩

def Text.isStatementChar (c : Char) : Bool :=
  isAlphanumeric c || "_.,()*=<>?$ ".toList.contains c

theorem Text.isStatementChar_of_isSqlChar (h : isSqlChar c = true) :
    isStatementChar c = true := by
  have hp : ∀ d ∈ "_. ,()*=<>".toList, isStatementChar d = true :=
    List.all_eq_true.mp (by decide)
  simp only [isSqlChar, isNameChar, isNamePart, Bool.or_eq_true, beq_iff_eq,
    List.contains_iff_mem] at h
  rcases h with ((h | rfl) | rfl) | h
  · simp [isStatementChar, h]
  · exact hp _ (by decide)
  · exact hp _ (by decide)
  · exact hp c (List.mem_cons_of_mem _ (List.mem_cons_of_mem _ h))

theorem Query.mem_sql {o : Options} {given : Directives} (s : o.Stages given)
    (hc : c ∈ s.statement.sql o.style) :
    o.schema.Mentions c ∨ Text.isStatementChar c = true := by
  have admits : Admits (fun c => o.schema.Mentions c ∨ Text.isStatementChar c = true) o.schema :=
    ⟨fun c h => .inr (Text.isStatementChar_of_isSqlChar h), fun c h => .inl h⟩
  rcases Text.mem_collapse hc with rfl | ⟨hc, _⟩
  · exact .inr (by decide)
  · rcases Fragment.mem_renderFrom hc with ⟨t, ht, hc⟩ | rfl | rfl | hc
    · exact s.statement_over admits t ht c hc
    · exact .inr (by decide)
    · exact .inr (by decide)
    · exact .inr (by simp [Text.isStatementChar, Text.isAlphanumeric, Text.isNumeric_of_isDigit hc])

end Rendering

section Exclusion

variable {c : Char}

def Text.isControl (c : Char) : Bool :=
  c.toNat < 0x20 || (0x7F ≤ c.toNat && c.toNat ≤ 0x9F)

theorem Text.has_eq_false {ranges : CharRanges} {lo hi : Nat}
    (hr : ranges.all (fun r => r.2 < lo || hi < r.1) = true) (hlo : lo ≤ c.toNat)
    (hhi : c.toNat ≤ hi) : ranges.has c = false := by
  rw [CharRanges.has, List.any_eq_false]
  intro range hm
  have := List.all_eq_true.mp hr range hm
  simp only [Bool.or_eq_true, decide_eq_true_eq] at this
  simp only [Bool.and_eq_true, decide_eq_true_eq]
  omega

/-- Neither a letter nor a digit of ASCII, nor above ASCII a letter or a number. -/
theorem Text.isAlphanumeric_eq_false (halpha : c.isAlpha = false) (hdigit : c.isDigit = false)
    (hletter : 128 ≤ c.toNat → alphabeticRanges.has c = false)
    (hnumber : 128 ≤ c.toNat → numericRanges.has c = false) : isAlphanumeric c = false := by
  rw [isAlphanumeric, isAlphabetic, isNumeric, halpha, hdigit]
  split
  · rfl
  · rename_i h
    rw [hletter (by omega), hnumber (by omega)]
    rfl

theorem Text.isAlphanumeric_control (h : isControl c = true) : isAlphanumeric c = false := by
  simp only [isControl, Bool.or_eq_true, Bool.and_eq_true, decide_eq_true_eq] at h
  have hletters : alphabeticRanges.all (fun r => r.2 < 0 || 0x9F < r.1) = true := by
    decide +kernel
  have hnumbers : numericRanges.all (fun r => r.2 < 0 || 0x9F < r.1) = true := by decide +kernel
  refine isAlphanumeric_eq_false ?_ ?_ (fun _ => has_eq_false hletters (by omega) (by omega))
    fun _ => has_eq_false hnumbers (by omega) (by omega)
  · rw [← Bool.not_eq_true, isAlpha_iff]
    omega
  · rw [← Bool.not_eq_true, isDigit_iff]
    omega

/-- Where white space above ASCII stands among the characters: neither letters nor numbers are in
these ranges. -/
def Text.blankGaps : List (Nat × Nat) :=
  [(0x80, 0xA0), (0x1680, 0x1680), (0x2000, 0x205F), (0x3000, 0x3000)]

theorem Text.isDigit_of_isBlank (h : isBlank c = true) : c.isDigit = false := by
  rw [← Bool.not_eq_true, isDigit_iff]
  simp only [isBlank, Bool.or_eq_true, Bool.and_eq_true, decide_eq_true_eq, beq_iff_eq] at h
  omega

/-- White space is neither a letter nor a number. -/
theorem Text.isAlphanumeric_blank (h : isBlank c = true) : isAlphanumeric c = false := by
  have hdigit := isDigit_of_isBlank h
  simp only [isBlank, Bool.or_eq_true, Bool.and_eq_true, decide_eq_true_eq, beq_iff_eq] at h
  have halpha : c.isAlpha = false := by
    rw [← Bool.not_eq_true, isAlpha_iff]
    omega
  have hgap : 128 ≤ c.toNat → ∃ gap ∈ blankGaps, gap.1 ≤ c.toNat ∧ c.toNat ≤ gap.2 := by
    intro hc
    simp only [blankGaps, List.mem_cons, List.not_mem_nil, or_false, exists_eq_or_imp,
      exists_eq_left]
    omega
  have hnone : blankGaps.all (fun gap =>
      alphabeticRanges.all (fun r => r.2 < gap.1 || gap.2 < r.1) &&
        numericRanges.all fun r => r.2 < gap.1 || gap.2 < r.1) = true := by decide +kernel
  refine isAlphanumeric_eq_false halpha hdigit ?_ ?_
  · intro hc
    obtain ⟨gap, hm, hlo, hhi⟩ := hgap hc
    have hranges := List.all_eq_true.mp hnone gap hm
    rw [Bool.and_eq_true] at hranges
    exact has_eq_false hranges.1 hlo hhi
  · intro hc
    obtain ⟨gap, hm, hlo, hhi⟩ := hgap hc
    have hranges := List.all_eq_true.mp hnone gap hm
    rw [Bool.and_eq_true] at hranges
    exact has_eq_false hranges.2 hlo hhi

/-- A name has no white space in it. -/
theorem Text.isBlank_of_isNameChar (h : isNameChar c = true) : isBlank c = false := by
  rw [← Bool.not_eq_true]
  intro hb
  simp only [isNameChar, isNamePart, isAlphanumeric_blank hb, Bool.false_or, Bool.or_eq_true,
    beq_iff_eq] at h
  rcases h with rfl | rfl
  all_goals exact absurd hb (by decide)

/-- Characters that could end or split a statement are none that it is made of. -/
theorem Text.isStatementChar_excluded
    (h : c ∈ "'\";-/\\`".toList ∨ isControl c = true) : isStatementChar c = false := by
  rcases h with h | h
  · have hnot := List.all_eq_true.mp
      (by decide : "'\";-/\\`".toList.all (!isStatementChar ·) = true) c h
    simpa using hnot
  · have hp : "_.,()*=<>?$ ".toList.contains c = false := by
      rw [← Bool.not_eq_true, List.contains_iff_mem]
      intro hm
      have hnot := List.all_eq_true.mp
        (by decide : "_.,()*=<>?$ ".toList.all (!isControl ·) = true) c hm
      simp [h] at hnot
    rw [isStatementChar, isAlphanumeric_control h, hp]
    rfl

end Exclusion

/-- Nothing but what the schema says, letters, numbers and the punctuation of a statement reaches
the text; quotes, comments and control characters can only come from the schema. White space is a
single space between words. -/
theorem sql_alphabet {o : Options} {p : Params} {q : Query} (h : compileParams o p = .ok q) :
    (∀ c ∈ q.sql, o.schema.Mentions c ∨ Text.isAlphanumeric c = true ∨
      c ∈ "_.,()*=<>?$ ".toList) ∧
    (∀ c ∈ q.sql, c ∈ "'\";-/\\`".toList ∨ Text.isControl c = true → o.schema.Mentions c) ∧
    (∀ c ∈ q.sql, Text.isBlank c = true → c = ' ') ∧
    ¬ [' ', ' '] <:+: q.sql ∧ q.sql.head? ≠ some ' ' ∧ q.sql.getLast? ≠ some ' ' := by
  obtain ⟨st, hst, rfl⟩ := compileParams_eq_ok h
  obtain ⟨stages, rfl⟩ := Options.statement_eq_ok hst
  have spaced := Text.spaced_collapse (stages.statement.fragment.render o.style)
  refine ⟨?_, ?_, ?_, ?_, ?_, ?_⟩
  · intro c hc
    refine (Query.mem_sql stages hc).imp_right fun h => ?_
    rw [Text.isStatementChar, Bool.or_eq_true, List.contains_iff_mem] at h
    exact h
  · intro c hc hx
    rcases Query.mem_sql stages hc with hm | hm
    · exact hm
    · rw [Text.isStatementChar_excluded hx] at hm
      cases hm
  · intro c hc hb
    rcases Text.mem_collapse hc with rfl | ⟨_, hn⟩
    · rfl
    · rw [hb] at hn
      cases hn
  · rintro ⟨u, v, huv⟩
    have inside := spaced.inside
    change (stages.statement.sql o.style).IsChain _ at inside
    change u ++ [' ', ' '] ++ v = stages.statement.sql o.style at huv
    rw [← huv, List.append_assoc] at inside
    exact absurd (List.isChain_cons_cons.mp (List.isChain_append.mp inside).2.1).1 (by decide)
  · intro hf
    exact absurd (spaced.first ' ' hf) (by decide)
  · intro hl
    exact absurd (spaced.last ' ' hl) (by decide)

/-- The quotes of the text come from a predicate; the semicolon of the request stays out. -/
theorem sql_alphabet_orders :
    ∃ q, compileParams .orders ⟨[("$filter".toList, "name eq 'a;  --b' or total gt 3".toList)]⟩ =
        .ok q ∧
      '\'' ∈ q.sql ∧ Options.orders.schema.Mentions '\'' ∧ ';' ∉ q.sql ∧ '-' ∉ q.sql ∧
      ¬ [' ', ' '] <:+: q.sql := by
  have h : compileParams .orders
      ⟨[("$filter".toList, "name eq 'a;  --b' or total gt 3".toList)]⟩ = .ok
      { sql := ("SELECT * FROM orders o LEFT JOIN customers c ON c.id = o.customer AND " ++
          "c.kind <> 'guest' WHERE (c.name = $1 OR o.total > $2)").toList
        params := [.text "a;  --b".toList, .int 3] } := by decide +kernel
  obtain ⟨_, excluded, _, single, _⟩ := sql_alphabet h
  have hquote := excluded '\'' (by decide +kernel) (.inl (by decide))
  refine ⟨_, h, by decide +kernel, hquote, fun hm => ?_, fun hm => ?_, single⟩
  · exact absurd (excluded ';' hm (.inl (by decide))) (by decide +kernel)
  · exact absurd (excluded '-' hm (.inl (by decide))) (by decide +kernel)

end RequestSql
