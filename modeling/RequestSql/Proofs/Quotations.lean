import RequestSql.Proofs.Alphabet

namespace RequestSql

namespace Text

mutual

def quotations : Text → List Text
  | [] => []
  | c :: t =>
    if c = '\'' then
      match quotationRest t with
      | some (w, ws) => w :: ws
      | none => []
    else quotations t

/-- What is left of a literal up to its closing quote, and the literals after it. A quote that is
written twice belongs to the literal; one that is never closed is none. -/
def quotationRest : Text → Option (Text × List Text)
  | [] => none
  | '\'' :: '\'' :: t => (quotationRest t).map fun (w, ws) => ('\'' :: '\'' :: w, ws)
  | '\'' :: t => some ([], quotations t)
  | c :: t => (quotationRest t).map fun (w, ws) => (c :: w, ws)

end

def squeeze : Text → Text
  | [] => []
  | c :: t =>
    if isBlank c then if t.head?.any isBlank then squeeze t else ' ' :: squeeze t
    else c :: squeeze t

structure SingleSpaced (t : Text) : Prop where
  spaces : ∀ c ∈ t, isBlank c = true → c = ' '
  apart : t.IsChain fun a b => isBlank a = true → isBlank b = false

/-- A text whose quotes come in pairs. -/
def IsBalanced (t : Text) : Prop :=
  t.count '\'' % 2 = 0

instance (t : Text) : Decidable t.IsBalanced :=
  inferInstanceAs (Decidable (t.count '\'' % 2 = 0))

section Scanning

variable {c : Char} {t u v : Text}

theorem quotations_quote (t : Text) : quotations ('\'' :: t) =
    match quotationRest t with
    | some (w, ws) => w :: ws
    | none => [] := by
  rw [quotations, if_pos rfl]

theorem quotations_cons (hc : c ≠ '\'') : quotations (c :: t) = quotations t := by
  rw [quotations, if_neg hc]

theorem quotationRest_close (ht : t.head? ≠ some '\'') :
    quotationRest ('\'' :: t) = some ([], quotations t) := by
  rw [quotationRest]
  rintro u rfl
  exact ht rfl

theorem quotationRest_cons (hc : c ≠ '\'') :
    quotationRest (c :: t) = (quotationRest t).map fun (w, ws) => (c :: w, ws) := by
  rw [quotationRest]
  · exact fun u h _ => hc h
  · exact fun h => hc h

/-- Induction along the scan of a text: a quote inside a literal is closing, or is written twice. -/
theorem quote_induction {P : Text → Prop} (nil : P [])
    (double : ∀ t, P t → P ('\'' :: t) → P ('\'' :: '\'' :: t))
    (close : ∀ t, t.head? ≠ some '\'' → P t → P ('\'' :: t))
    (other : ∀ c t, c ≠ '\'' → P t → P (c :: t)) (t : Text) : P t := by
  match t with
  | [] => exact nil
  | c :: t =>
    have ih := quote_induction nil double close other t
    by_cases hc : c = '\''
    · subst hc
      by_cases ht : t.head? = some '\''
      · obtain ⟨u, rfl⟩ := List.head?_eq_some_iff.mp ht
        exact double u (quote_induction nil double close other u) ih
      · exact close t ht ih
    · exact other c t hc ih
termination_by t.length

/-- A literal begins with white space where the text after its quote does. -/
theorem head_of_quotationRest {w : Text} {ws : List Text} (h : quotationRest t = some (w, ws)) :
    w.head?.any isBlank = t.head?.any isBlank := by
  induction t using quote_induction with
  | nil => cases h
  | double t _ _ =>
    rw [quotationRest] at h
    obtain ⟨_, _, he⟩ := Option.map_eq_some_iff.mp h
    cases he
    rfl
  | close t ht _ =>
    rw [quotationRest_close ht] at h
    cases h
    rfl
  | other c t hc _ =>
    rw [quotationRest_cons hc] at h
    obtain ⟨_, _, he⟩ := Option.map_eq_some_iff.mp h
    cases he
    rfl

/-- What has no quote in it may stand in front of a text. -/
theorem quotations_append_of_not_mem (h : '\'' ∉ u) : quotations (u ++ v) = quotations v := by
  induction u with
  | nil => rfl
  | cons c u ih =>
    obtain ⟨hc, hu⟩ := List.ne_and_not_mem_of_not_mem_cons h
    rw [List.cons_append, quotations_cons (Ne.symm hc), ih hu]

theorem quotations_of_not_mem (h : '\'' ∉ t) : quotations t = [] := by
  have happend := quotations_append_of_not_mem (v := []) h
  rwa [List.append_nil] at happend

/-- Where the quotes of a text come in pairs and the next text does not go on with one, the literals
of both are read one after the other. Inside a literal the number of quotes to come is odd. -/
theorem quotations_append_and_rest (hv : v.head? ≠ some '\'') (u : Text) :
    (u.count '\'' % 2 = 0 → quotations (u ++ v) = quotations u ++ quotations v) ∧
    (u.count '\'' % 2 = 1 → ∃ w ws, quotationRest u = some (w, ws) ∧
      quotationRest (u ++ v) = some (w, ws ++ quotations v)) := by
  have hquote : ∀ u : Text, ('\'' :: u).count '\'' = u.count '\'' + 1 :=
    fun _ => List.count_cons_self
  -- Outside a literal a quote opens one, and the number of quotes after it is odd.
  have hopen : ∀ u : Text, (u.count '\'' % 2 = 1 → ∃ w ws, quotationRest u = some (w, ws) ∧
      quotationRest (u ++ v) = some (w, ws ++ quotations v)) →
      ('\'' :: u).count '\'' % 2 = 0 →
      quotations ('\'' :: u ++ v) = quotations ('\'' :: u) ++ quotations v := by
    intro u ih h
    rw [hquote] at h
    obtain ⟨w, ws, hu, happend⟩ := ih (by omega)
    rw [List.cons_append, quotations_quote, quotations_quote, hu, happend]
    rfl
  induction u using quote_induction with
  | nil => exact ⟨fun _ => rfl, fun h => absurd h (by decide)⟩
  | double u ih ihq =>
    refine ⟨hopen _ ihq.2, fun h => ?_⟩
    rw [hquote, hquote] at h
    obtain ⟨w, ws, hu, happend⟩ := ih.2 (by omega)
    refine ⟨'\'' :: '\'' :: w, ws, ?_, ?_⟩
    · rw [quotationRest, hu]
      rfl
    · rw [List.cons_append, List.cons_append, quotationRest, happend]
      rfl
  | close u hu ih =>
    refine ⟨hopen _ ih.2, fun h => ?_⟩
    have hhead : (u ++ v).head? ≠ some '\'' := by
      cases u with
      | nil => exact hv
      | cons d u => exact hu
    rw [hquote] at h
    refine ⟨[], quotations u, quotationRest_close hu, ?_⟩
    rw [List.cons_append, quotationRest_close hhead, ih.1 (by omega)]
  | other c u hc ih =>
    rw [List.count_cons_of_ne hc]
    refine ⟨fun h => ?_, fun h => ?_⟩
    · rw [List.cons_append, quotations_cons hc, quotations_cons hc, ih.1 h]
    · obtain ⟨w, ws, hu, happend⟩ := ih.2 h
      refine ⟨c :: w, ws, ?_, ?_⟩
      · rw [quotationRest_cons hc, hu]
        rfl
      · rw [List.cons_append, quotationRest_cons hc, happend]
        rfl

theorem quotations_append (hu : IsBalanced u) (hv : v.head? ≠ some '\'') :
    quotations (u ++ v) = quotations u ++ quotations v :=
  (quotations_append_and_rest hv u).1 hu

/-- A space at the end of a text does not change its literals, also where the last one is not
closed. -/
theorem quotations_append_space (t : Text) :
    quotations (t ++ [' ']) = quotations t ∧ quotationRest (t ++ [' ']) = quotationRest t := by
  induction t using quote_induction with
  | nil => exact ⟨rfl, rfl⟩
  | double t ih ihq =>
    constructor
    · rw [List.cons_append, quotations_quote, quotations_quote, ihq.2]
    · rw [List.cons_append, List.cons_append, quotationRest, quotationRest, ih.2]
  | close t ht ih =>
    have hhead : (t ++ [' ']).head? ≠ some '\'' := by
      cases t with
      | nil => decide
      | cons d t => exact ht
    constructor
    · rw [List.cons_append, quotations_quote, quotations_quote, ih.2]
    · rw [List.cons_append, quotationRest_close hhead, quotationRest_close ht, ih.1]
  | other c t hc ih =>
    rw [List.cons_append, quotations_cons hc, quotations_cons hc, quotationRest_cons hc,
      quotationRest_cons hc, ih.1, ih.2]
    exact ⟨rfl, rfl⟩

end Scanning

section Squeezing

variable {c : Char} {t : Text}

theorem squeeze_cons (hc : isBlank c = false) : squeeze (c :: t) = c :: squeeze t := by
  rw [squeeze, if_neg (by simp [hc])]

theorem squeeze_cons_blank (hc : isBlank c = true) :
    squeeze (c :: t) = if t.head?.any isBlank then squeeze t else ' ' :: squeeze t := by
  rw [squeeze, if_pos hc]

theorem squeeze_quote (t : Text) : squeeze ('\'' :: t) = '\'' :: squeeze t :=
  squeeze_cons (by decide)

theorem head_squeeze (h : t.head? ≠ some '\'') : (squeeze t).head? ≠ some '\'' := by
  induction t with
  | nil => exact h
  | cons c t ih =>
    cases hc : isBlank c with
    | false => rwa [squeeze_cons hc]
    | true =>
      rw [squeeze_cons_blank hc]
      split
      · rename_i ht
        apply ih
        intro he
        rw [he] at ht
        exact absurd ht (by decide)
      · simp

/-- The literals of a squeezed text are its squeezed literals. -/
theorem quotations_squeeze (t : Text) :
    quotations (squeeze t) = (quotations t).map squeeze ∧
    quotationRest (squeeze t) =
      (quotationRest t).map fun (w, ws) => (squeeze w, ws.map squeeze) := by
  have hopen : ∀ t : Text, quotationRest (squeeze t) =
        (quotationRest t).map (fun (w, ws) => (squeeze w, ws.map squeeze)) →
      quotations (squeeze ('\'' :: t)) = (quotations ('\'' :: t)).map squeeze := by
    intro t ih
    rw [squeeze_quote, quotations_quote, quotations_quote, ih]
    cases quotationRest t with
    | none => rfl
    | some r => rfl
  induction t using quote_induction with
  | nil => exact ⟨rfl, rfl⟩
  | double t ih ihq =>
    refine ⟨hopen _ ihq.2, ?_⟩
    rw [squeeze_quote, squeeze_quote, quotationRest, quotationRest, ih.2]
    cases quotationRest t with
    | none => rfl
    | some r => simp [squeeze_quote]
  | close t ht ih =>
    refine ⟨hopen _ ih.2, ?_⟩
    rw [squeeze_quote, quotationRest_close (head_squeeze ht), quotationRest_close ht, ih.1]
    rfl
  | other c t hc ih =>
    rw [quotations_cons hc, quotationRest_cons hc]
    cases hb : isBlank c with
    | false =>
      rw [squeeze_cons hb, quotations_cons hc, quotationRest_cons hc]
      refine ⟨ih.1, ?_⟩
      rw [ih.2]
      cases quotationRest t with
      | none => rfl
      | some r => simp [squeeze_cons hb]
    | true =>
      -- A run of white space goes on in the literal just where it goes on in the text.
      have hhead := @head_of_quotationRest t
      rw [squeeze_cons_blank hb]
      cases ht : t.head?.any isBlank with
      | true =>
        refine ⟨ih.1, ?_⟩
        rw [if_pos rfl, ih.2]
        cases hr : quotationRest t with
        | none => rfl
        | some r => simp [squeeze_cons_blank hb, hhead hr, ht]
      | false =>
        rw [if_neg (by decide), quotations_cons (by decide), quotationRest_cons (by decide)]
        refine ⟨ih.1, ?_⟩
        rw [ih.2]
        cases hr : quotationRest t with
        | none => rfl
        | some r => simp [squeeze_cons_blank hb, hhead hr, ht]

/-- Squeezing is collapsing, but for a space at either end. -/
theorem squeeze_eq (t : Text) :
    ∃ e, (e = [] ∨ e = [' ']) ∧ squeeze t = gap t ++ collapse t ++ e := by
  induction t with
  | nil => exact ⟨[], .inl rfl, rfl⟩
  | cons c t ih =>
    obtain ⟨e, he, hs⟩ := ih
    cases hc : isBlank c with
    | false =>
      have hgap : gap (c :: t) = [] := by simp [gap, hc]
      have hcollapse : collapse (c :: t) = c :: (gap t ++ collapse t) :=
        collapse_word_append (w := [c]) (by simp [hc]) (by simp) t
      refine ⟨e, he, ?_⟩
      rw [squeeze_cons hc, hs, hgap, hcollapse]
      rfl
    | true =>
      rw [squeeze_cons_blank hc, collapse_cons_blank hc, gap_cons_blank hc]
      cases t with
      | nil => exact ⟨[' '], .inr rfl, rfl⟩
      | cons d t =>
        refine ⟨e, he, ?_⟩
        cases hd : isBlank d with
        | true =>
          rw [hs, gap_cons_blank hd, words_cons_blank hd]
          simp [hd]
        | false =>
          have hgap : gap (d :: t) = [] := by simp [gap, hd]
          have hwords : words (d :: t) ≠ [] := by
            rw [Ne, words_eq_nil_iff]
            simp [isAllBlank, hd]
          rw [hs, hgap, if_neg hwords]
          simp [hd]

/-- Collapsing reaches into the literals of a text that begins with a word. -/
theorem quotations_collapse (h : t.head?.any isBlank = false) :
    quotations (collapse t) = (quotations t).map squeeze := by
  have hgap : gap t = [] := by simp [gap, h]
  obtain ⟨e, he, hs⟩ := squeeze_eq t
  rw [hgap, List.nil_append] at hs
  rw [← (quotations_squeeze t).1, hs]
  rcases he with rfl | rfl
  · rw [List.append_nil]
  · rw [(quotations_append_space _).1]

theorem length_squeeze_le (t : Text) : (squeeze t).length ≤ t.length := by
  induction t with
  | nil => exact le_rfl
  | cons c t ih =>
    rw [squeeze]
    split
    · split
      · exact Nat.le_succ_of_le ih
      · exact Nat.succ_le_succ ih
    · exact Nat.succ_le_succ ih

theorem singleSpaced_cons : SingleSpaced (c :: t) ↔
    (isBlank c = true → c = ' ' ∧ t.head?.any isBlank = false) ∧ SingleSpaced t := by
  constructor
  · intro h
    have hapart := List.isChain_cons.mp h.apart
    refine ⟨fun hc => ⟨h.spaces c List.mem_cons_self hc, ?_⟩,
      fun d hd => h.spaces d (List.mem_cons_of_mem _ hd), hapart.2⟩
    cases ht : t.head? with
    | none => rfl
    | some d => exact hapart.1 d ht hc
  · rintro ⟨hc, ht⟩
    refine ⟨List.forall_mem_cons.mpr ⟨fun hb => (hc hb).1, ht.spaces⟩,
      List.isChain_cons.mpr ⟨fun d hd hb => ?_, ht.apart⟩⟩
    have hhead := (hc hb).2
    rw [hd] at hhead
    exact hhead

/-- Squeezing leaves the texts alone that have single spaces, and no others. -/
theorem squeeze_eq_self_iff : squeeze t = t ↔ SingleSpaced t := by
  induction t with
  | nil => exact ⟨fun _ => ⟨by simp, .nil⟩, fun _ => rfl⟩
  | cons c t ih =>
    rw [singleSpaced_cons, ← ih]
    cases hc : isBlank c with
    | false => simp [squeeze_cons hc]
    | true =>
      rw [squeeze_cons_blank hc]
      cases ht : t.head?.any isBlank with
      | true =>
        have hlength := length_squeeze_le t
        constructor
        · intro h
          rw [if_pos rfl] at h
          rw [h] at hlength
          exact absurd hlength (by simp)
        · rintro ⟨h, _⟩
          exact absurd (h rfl).2 (by decide)
      | false => simp [eq_comm]

end Squeezing

end Text

def Statement.quotations (s : Statement) : List Text :=
  (s.joins.filter fun j => j.spec.kind ≠ .cross).flatMap fun j => j.spec.predicate.quotations

def Schema.predicates (s : Schema) : List Text :=
  s.tables.entries.flatMap fun (_, t) => t.joins.entries.map fun (_, spec) => spec.predicate

section Statements

open Text

theorem Scope.predicate_mem_predicates {s : Scope} {name : Text} {spec : JoinSpec}
    (h : (name, spec) ∈ s.declaredJoins) : spec.predicate ∈ s.schema.predicates := by
  obtain ⟨t, ht, hj⟩ := mem_of_declaredJoins h
  exact List.mem_flatMap.mpr ⟨_, ht, List.mem_map.mpr ⟨_, hj, rfl⟩⟩

/-- The literals of a list of joins are those of their predicates. -/
theorem PlannedJoin.quotations_joins {joins : List PlannedJoin} {v : Text}
    (hopening : ∀ j ∈ joins, '\'' ∉ j.opening)
    (hpredicate : ∀ j ∈ joins, j.spec.predicate.IsBalanced) (hv : v.head? ≠ some '\'') :
    Text.quotations (joins.flatMap (fun j => ' ' :: j.sql) ++ v) =
      ((joins.filter fun j => j.spec.kind ≠ .cross).flatMap fun j =>
        j.spec.predicate.quotations) ++ v.quotations := by
  induction joins with
  | nil => rfl
  | cons j joins ih =>
    obtain ⟨hj, hjoins⟩ := List.forall_mem_cons.mp hopening
    obtain ⟨hp, hps⟩ := List.forall_mem_cons.mp hpredicate
    have ih := ih hjoins hps
    have hnext : (joins.flatMap (fun j => ' ' :: j.sql) ++ v).head? ≠ some '\'' := by
      cases joins with
      | nil => exact hv
      | cons k joins => simp
    rw [List.flatMap_cons, List.append_assoc, List.cons_append, quotations_cons (by decide),
      j.sql_eq, List.append_assoc, quotations_append_of_not_mem hj, PlannedJoin.condition]
    by_cases hk : j.spec.kind = .cross
    · rw [if_pos hk, List.nil_append, ih]
      simp [hk]
    · rw [if_neg hk, List.append_assoc, quotations_append_of_not_mem (by decide),
        quotations_append hp hnext, ih]
      simp [hk]

/-- Without a quote in any name, the literals of a statement are those of its predicates, with the
white space in them squeezed. -/
theorem Options.Stages.quotations_sql {o : Options} {given : Directives} (s : o.Stages given)
    (hnames : AdmitsNames (· ≠ '\'') o.schema)
    (hpredicates : ∀ t ∈ o.schema.predicates, t.IsBalanced) :
    (s.statement.sql o.style).quotations = s.statement.quotations.map squeeze := by
  have hjoins : ∀ j ∈ s.statement.joins, (j.table, j.spec) ∈ o.scope.declaredJoins :=
    fun j hj => (Scope.mem_plan hj).1
  have hopening : ∀ j ∈ s.statement.joins, '\'' ∉ j.opening :=
    fun j hj hm => AdmitsNames.joinOpening (s := o.scope) hnames hj _ hm rfl
  have hbalanced : ∀ j ∈ s.statement.joins, j.spec.predicate.IsBalanced :=
    fun j hj => hpredicates _ (Scope.predicate_mem_predicates (hjoins j hj))
  have hrest : '\'' ∉ Fragment.renderFrom o.style 1 (s.statement.condition ++
      [.text s.statement.tail]) := by
    intro hm
    rcases Fragment.mem_renderFrom hm with ⟨t, ht, hm⟩ | h | h | h
    · rcases List.mem_append.mp ht with ht | ht
      · exact s.condition_over hnames t ht _ hm rfl
      · cases List.mem_singleton.mp ht
        exact s.tail_over_names hnames _ hm rfl
    all_goals exact absurd h (by decide)
  have hfront : '\'' ∉ "SELECT ".toList ++ commaList (s.statement.columns.map Column.sql) ++
      " FROM ".toList ++ s.statement.tableText := by
    intro hm
    refine (?_ : ∀ c ∈ _, c ≠ '\'') _ hm rfl
    simp only [List.forall_mem_append]
    exact ⟨⟨⟨hnames.fixed _ (by decide), hnames.commaList (List.forall_mem_map.mpr (s.columns_over hnames))⟩,
      hnames.fixed _ (by decide)⟩, s.tableText_over hnames⟩
  have hrender : s.statement.fragment.render o.style = s.statement.head ++
      Fragment.renderFrom o.style 1 (s.statement.condition ++ [.text s.statement.tail]) := rfl
  rw [Statement.sql, quotations_collapse (by rw [hrender]; rfl), hrender]
  congr 1
  unfold Statement.head
  rw [List.append_assoc, quotations_append_of_not_mem hfront,
    PlannedJoin.quotations_joins hopening hbalanced (fun h => hrest (List.mem_of_head? h)),
    quotations_of_not_mem hrest, List.append_nil]
  rfl

theorem AdmitsNames.quote_free {s : Schema} (h : ∀ t ∈ s.names, Name.isIdentifier t = true) :
    AdmitsNames (· ≠ '\'') s where
  sql := by
    rintro c hc rfl
    exact absurd hc (by decide)
  names := by
    rintro t ht c hc rfl
    exact absurd (Name.isIdentifier_isName (h t ht) _ hc) (by decide)

theorem Query.quotations_eq {o : Options} {p : Params} {q : Query}
    (hnames : ∀ t ∈ o.schema.names, Name.isIdentifier t = true)
    (hpredicates : ∀ t ∈ o.schema.predicates, t.IsBalanced) (h : compileParams o p = .ok q) :
    ∃ s, o.statement p.directives = .ok s ∧ q = .ofStatement o.style s ∧
      q.sql.quotations = s.quotations.map squeeze := by
  obtain ⟨s, hs, rfl⟩ := compileParams_eq_ok h
  obtain ⟨stages, rfl⟩ := Options.statement_eq_ok hs
  exact ⟨_, hs, rfl, stages.quotations_sql (.quote_free hnames) hpredicates⟩

/-- The literals of the text in SQL are those of the predicates joined on, in order, with one space
for every run of white space in them. They are the same where that changes nothing. -/
theorem literals_squeezed {o : Options} {p : Params} {q : Query}
    (hnames : ∀ t ∈ o.schema.names, Name.isIdentifier t = true)
    (hpredicates : ∀ t ∈ o.schema.predicates, t.IsBalanced) (h : compileParams o p = .ok q) :
    ∃ s, o.statement p.directives = .ok s ∧ q = .ofStatement o.style s ∧
      q.sql.quotations = s.quotations.map squeeze ∧
      (q.sql.quotations = s.quotations ↔ ∀ w ∈ s.quotations, w.SingleSpaced) := by
  obtain ⟨s, hs, hq, hsql⟩ := Query.quotations_eq hnames hpredicates h
  refine ⟨s, hs, hq, hsql, ?_⟩
  rw [hsql]
  simp only [← squeeze_eq_self_iff]
  simpa using List.map_inj_left (l := s.quotations) (f := squeeze) (g := id)

def Options.bigSpenders : Options where
  table := "orders".toList
  schema :=
    { tables := .ofPairs [
        ("orders".toList,
          { aliasName := some "o".toList
            columns := ["id".toList]
            joins := .ofPairs [("customers".toList,
              { predicate := "c.id = o.customer AND c.kind <> 'big  spender'".toList
                aliasName := some "c".toList })] })] }

theorem Options.bigSpenders_names :
    ∀ t ∈ bigSpenders.schema.names, Name.isIdentifier t = true :=
  List.all_eq_true.mp (by decide)

theorem Options.bigSpenders_predicates :
    ∀ t ∈ bigSpenders.schema.predicates, t.IsBalanced := by
  intro t ht
  cases List.mem_singleton.mp ht
  decide

def Params.expandCustomers : Params :=
  ⟨[("$expand".toList, "customers".toList)]⟩

theorem Options.bigSpenders_statement :
    ∃ s, bigSpenders.statement Params.expandCustomers.directives = .ok s ∧
      s.quotations = ["big  spender".toList] := by
  have h : (bigSpenders.statement Params.expandCustomers.directives).toOption.map
      Statement.quotations = some ["big  spender".toList] := by decide +kernel
  cases hs : bigSpenders.statement Params.expandCustomers.directives with
  | error e =>
    rw [hs] at h
    cases h
  | ok s =>
    rw [hs] at h
    exact ⟨s, rfl, Option.some.inj h⟩

theorem literals_squeezed_bigSpenders :
    (∀ t ∈ Options.bigSpenders.schema.names, Name.isIdentifier t = true) ∧
    (∀ t ∈ Options.bigSpenders.schema.predicates, t.IsBalanced) ∧
    ∃ q, compileParams .bigSpenders .expandCustomers = .ok q ∧
      q.sql.quotations = ["big spender".toList] := by
  refine ⟨Options.bigSpenders_names, Options.bigSpenders_predicates, ?_⟩
  obtain ⟨s, hs, hliterals⟩ := Options.bigSpenders_statement
  have h := compileParams_of_statement hs
  obtain ⟨s', hs', _, hsql, _⟩ :=
    literals_squeezed Options.bigSpenders_names Options.bigSpenders_predicates h
  cases hs.symm.trans hs'
  refine ⟨_, h, ?_⟩
  rw [hsql, hliterals]
  decide

/-- A literal with two spaces comes out with one: literals are not always left alone. -/
theorem literal_changed :
    (∀ t ∈ Options.bigSpenders.schema.names, Name.isIdentifier t = true) ∧
    (∀ t ∈ Options.bigSpenders.schema.predicates, t.IsBalanced) ∧
    ∃ q, compileParams .bigSpenders .expandCustomers = .ok q ∧
      ∃ s, Options.bigSpenders.statement Params.expandCustomers.directives = .ok s ∧
        q = .ofStatement .mysql s ∧ q.sql.quotations ≠ s.quotations := by
  refine ⟨Options.bigSpenders_names, Options.bigSpenders_predicates, ?_⟩
  obtain ⟨s, hs, hliterals⟩ := Options.bigSpenders_statement
  have h := compileParams_of_statement hs
  obtain ⟨s', hs', hq, hsql⟩ :=
    Query.quotations_eq Options.bigSpenders_names Options.bigSpenders_predicates h
  cases hs.symm.trans hs'
  refine ⟨_, h, s, hs, hq, ?_⟩
  rw [hsql, hliterals]
  decide

end Statements

end RequestSql
