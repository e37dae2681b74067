import Mathlib.Data.List.Perm.Basic
import Mathlib.Logic.Relation
import RequestSql.Proofs.Stages

namespace RequestSql

namespace Params

section Values

variable {p q : Params} {name other value : Text} {before after : List (Text × Text)}

def isSilent (p : Params) (name : Text) : Bool :=
  (p.get? name).all Text.isAllBlank

/-- Two requests say the same under a name: they have the same last value, or none that counts. -/
def AgreeOn (p q : Params) (name : Text) : Prop :=
  p.get? name = q.get? name ∨ (p.isSilent name = true ∧ q.isSilent name = true)

instance : Decidable (p.AgreeOn q name) :=
  inferInstanceAs (Decidable (_ ∨ _))

theorem directives_of_isSilent {d : Directive} (h : p.isSilent d.key = true) :
    p.directives d = none := by
  rw [isSilent] at h
  cases hv : p.get? d.key with
  | none => simp [directives, hv]
  | some value =>
    rw [hv, Option.all_some] at h
    simp [directives, hv, h]

theorem directives_of_agreeOn {d : Directive} (h : p.AgreeOn q d.key) :
    p.directives d = q.directives d := by
  rcases h with h | ⟨hp, hq⟩
  · simp only [directives, h]
  · rw [directives_of_isSilent hp, directives_of_isSilent hq]

theorem directives_eq_of_agreeOn (h : ∀ d : Directive, p.AgreeOn q d.key) :
    p.directives = q.directives :=
  funext fun d => directives_of_agreeOn (h d)

/-- A later value of a name counts before an earlier one. -/
theorem get?_append : (⟨before ++ after⟩ : Params).get? name =
    ((⟨after⟩ : Params).get? name).or ((⟨before⟩ : Params).get? name) := by
  simp [get?, getAll, List.getLast?_append]

theorem get?_cons : (⟨(other, value) :: after⟩ : Params).get? name =
    ((⟨after⟩ : Params).get? name).or (if other = name then some value else none) := by
  by_cases h : other = name
  · simp [get?, getAll, h, List.getLast?_cons]
  · simp [get?, getAll, h]

theorem get?_isSome (h : name ∈ after.map Prod.fst) :
    ((⟨after⟩ : Params).get? name).isSome = true := by
  induction after with
  | nil => cases h
  | cons pair after ih =>
    rw [get?_cons, Option.isSome_or, Bool.or_eq_true]
    rcases List.mem_cons.mp h with rfl | h
    · exact .inr (by simp)
    · exact .inl (ih h)

def without (p : Params) (name : Text) : Params :=
  ⟨p.pairs.filter fun pair => pair.1 != name⟩

theorem get?_without_same : (p.without name).get? name = none := by
  simp [get?, getAll, without, List.filter_filter]

theorem get?_without_other (h : other ≠ name) : (p.without name).get? other = p.get? other := by
  have hfilter : ∀ pair : Text × Text, (pair.1 == other && pair.1 != name) = (pair.1 == other) := by
    intro pair
    by_cases hp : pair.1 = other <;> simp [hp, h]
  simp only [get?, getAll, without, List.filter_filter, hfilter]

end Values

inductive Edit : Params → Params → Prop where
  /-- Parameters change places, but those of one name keep their order. -/
  | rearrange {p q : Params} (perm : p.pairs.Perm q.pairs)
      (order : ∀ name, p.getAll name = q.getAll name) : Edit p q
  | foreign {name : Text} (h : ∀ d : Directive, d.key ≠ name)
      (before after : List (Text × Text)) (value : Text) :
      Edit ⟨before ++ after⟩ ⟨before ++ (name, value) :: after⟩
  | earlier {name : Text} {after : List (Text × Text)} (h : name ∈ after.map Prod.fst)
      (before : List (Text × Text)) (value : Text) :
      Edit ⟨before ++ after⟩ ⟨before ++ (name, value) :: after⟩
  | blank {p : Params} {name value : Text} (last : p.get? name = some value)
      (h : value.isAllBlank = true) : Edit p (p.without name)

/-- One change leaves what the request says for each directive. -/
theorem Edit.agreeOn {p q : Params} (h : Edit p q) (d : Directive) : p.AgreeOn q d.key := by
  cases h with
  | rearrange perm order => exact .inl (by rw [get?, get?, order])
  | foreign h before after value =>
    left
    rw [get?_append, get?_append, get?_cons, if_neg (Ne.symm (h d)), Option.or_none]
  | @earlier name after h before value =>
    left
    rw [get?_append, get?_append, get?_cons]
    by_cases hk : name = d.key
    · obtain ⟨last, hlast⟩ := Option.isSome_iff_exists.mp (get?_isSome (hk ▸ h))
      rw [hlast, Option.some_or, Option.some_or, Option.some_or]
    · rw [if_neg hk, Option.or_none]
  | @blank _ name value last h =>
    by_cases hk : d.key = name
    · subst hk
      exact .inr ⟨by simpa [isSilent, last] using h, by rw [isSilent, get?_without_same]; rfl⟩
    · exact .inl (get?_without_other hk).symm

end Params

theorem compileParams_congr {o : Options} {p q : Params}
    (h : ∀ d : Directive, p.AgreeOn q d.key) : compileParams o p = compileParams o q := by
  simp only [compileParams, Params.directives_eq_of_agreeOn h]

/-- Requests that say the same for every directive have one outcome, be it a query or an error;
so do requests that any number of harmless changes lead to, there or back. -/
theorem compileParams_of_directives (o : Options) (p q : Params) :
    ((∀ d : Directive, p.AgreeOn q d.key) → compileParams o p = compileParams o q) ∧
      (Relation.EqvGen Params.Edit p q → compileParams o p = compileParams o q) := by
  refine ⟨compileParams_congr, fun h => ?_⟩
  induction h with
  | rel p q edit => exact compileParams_congr edit.agreeOn
  | refl p => rfl
  | symm p q _ ih => exact ih.symm
  | trans p q r _ _ hpq hqr => exact hpq.trans hqr

/-- An earlier value, a blank directive and a parameter of another name make no difference. -/
theorem compileParams_of_directives_orders :
    (∀ d : Directive, Params.AgreeOn
      ⟨[("$top".toList, "9".toList), ("$skip".toList, " ".toList), ("$top".toList, "3".toList)]⟩
      ⟨[("$top".toList, "3".toList), ("page".toList, "2".toList)]⟩ d.key) ∧
    compileParams .orders
      ⟨[("$top".toList, "9".toList), ("$skip".toList, " ".toList), ("$top".toList, "3".toList)]⟩ =
    compileParams .orders ⟨[("$top".toList, "3".toList), ("page".toList, "2".toList)]⟩ ∧
    compileParams .orders ⟨[("$top".toList, "3".toList)]⟩ =
    compileParams .orders ⟨[("$top".toList, "9".toList), ("page".toList, "2".toList),
      ("$top".toList, "3".toList)]⟩ := by
  have agree : ∀ d : Directive, Params.AgreeOn
      ⟨[("$top".toList, "9".toList), ("$skip".toList, " ".toList), ("$top".toList, "3".toList)]⟩
      ⟨[("$top".toList, "3".toList), ("page".toList, "2".toList)]⟩ d.key := by
    intro d
    cases d <;> decide
  have page : ∀ d : Directive, d.key ≠ "page".toList := by
    intro d
    cases d <;> decide
  have edits : Relation.EqvGen Params.Edit ⟨[("$top".toList, "3".toList)]⟩
      ⟨[("$top".toList, "9".toList), ("page".toList, "2".toList), ("$top".toList, "3".toList)]⟩ :=
    .trans _ ⟨[("page".toList, "2".toList), ("$top".toList, "3".toList)]⟩ _
      (.rel _ _ (.foreign page [] _ _)) (.rel _ _ (.earlier (by decide) [] _))
  exact ⟨agree, (compileParams_of_directives .orders _ _).1 agree,
    (compileParams_of_directives .orders _ _).2 edits⟩

section Verdicts

variable {ε α β : Type} {x : Except ε α} {e : ε}

/-- Whether a computation succeeds, and its error where it does not. -/
def verdict (x : Except ε α) : Except ε Unit :=
  x.map fun _ => ()

theorem verdict_eq_ok : verdict x = .ok () ↔ ∃ a, x = .ok a := by
  cases x <;> simp [verdict, Except.map]

theorem verdict_eq_error : verdict x = .error e ↔ x = .error e := by
  cases x <;> simp [verdict, Except.map]

/-- Where the verdict on what follows does not depend on the value, the value is not needed. -/
theorem verdict_bind {f : α → Except ε β} {next : Except ε Unit} (h : ∀ a, verdict (f a) = next) :
    verdict (x >>= f) = verdict x >>= fun _ => next := by
  cases x with
  | error e => rfl
  | ok a => exact h a

variable {check : α → Except ε Unit} {xs : List α}

theorem forM_eq_ok : forM xs check = .ok () ↔ ∀ x ∈ xs, check x = .ok () := by
  induction xs with
  | nil => exact ⟨fun _ => by simp, fun _ => rfl⟩
  | cons x xs ih =>
    rw [List.forM_cons, bind_eq_ok, List.forall_mem_cons, ← ih]
    exact ⟨fun ⟨_, hx, hxs⟩ => ⟨hx, hxs⟩, fun ⟨hx, hxs⟩ => ⟨(), hx, hxs⟩⟩

/-- A sequence of checks fails with the error of the first one that fails. -/
theorem forM_eq_error : forM xs check = .error e ↔ ∃ before x after, xs = before ++ x :: after ∧
    (∀ y ∈ before, check y = .ok ()) ∧ check x = .error e := by
  induction xs with
  | nil =>
    constructor
    · intro h
      cases h
    · rintro ⟨before, x, after, h, _⟩
      simp at h
  | cons y xs ih =>
    rw [List.forM_cons]
    constructor
    · intro h
      cases hy : check y with
      | error e' =>
        rw [hy] at h
        cases h
        exact ⟨[], y, xs, rfl, by simp, hy⟩
      | ok u =>
        rw [hy] at h
        obtain ⟨before, x, after, rfl, hb, hx⟩ := ih.mp h
        exact ⟨y :: before, x, after, rfl, List.forall_mem_cons.mpr ⟨hy, hb⟩, hx⟩
    · rintro ⟨before, x, after, hs, hb, hx⟩
      cases before with
      | nil =>
        cases hs
        rw [hx]
        rfl
      | cons z before =>
        cases hs
        obtain ⟨hz, hb⟩ := List.forall_mem_cons.mp hb
        rw [hz]
        exact ih.mpr ⟨before, x, after, rfl, hb, hx⟩

end Verdicts

/-- The directives that count, in the order in which they are checked. A grouping takes the place
of a selection. -/
def Directives.order (given : Directives) : List Directive :=
  [.expand, if (given .apply).isSome then .apply else .select, .filter, .orderBy, .top, .skip]

def Directives.heeded (given : Directives) : List (Directive × Text) :=
  given.order.filterMap fun d => (given d).map (d, ·)

def Params.single (d : Directive) (value : Text) : Params :=
  ⟨[(d.key, value)]⟩

/-- The requests that a request is made of: one without directives, and then one for each directive
that counts. -/
def Params.parts (p : Params) : List Params :=
  {} :: p.directives.heeded.map fun (d, value) => .single d value

namespace Options

variable {o : Options} {given : Directives}

def checkValue (o : Options) : Directive × Text → Except CompileError Unit
  | (.expand, value) => Expand.parse value >>= o.scope.checkRelations
  | (.apply, value) => verdict (Apply.parse value)
  | (.select, value) => verdict (Select.parse value)
  | (.filter, value) => verdict (o.parseFilter value)
  | (.orderBy, value) => verdict (o.parseOrderBy value)
  | (.top, value) => verdict (Paging.parse .top value)
  | (.skip, value) => verdict (Paging.parse .skip value)

def checkGiven (o : Options) (given : Directives) (d : Directive) : Except CompileError Unit :=
  match given d with
  | some value => o.checkValue (d, value)
  | none => .ok ()

theorem verdict_read {α : Type} {d : Directive} {parse : Text → Except CompileError α}
    (h : ∀ value, verdict (parse value) = o.checkValue (d, value)) :
    verdict (given.read d parse) = o.checkGiven given d := by
  cases hd : given d with
  | none => simp only [Directives.read, checkGiven, hd, verdict, Except.map]
  | some value =>
    simp only [Directives.read, checkGiven, hd, ← h value]
    cases parse value <;> rfl

theorem verdict_expansions : verdict (o.expansions given) = o.checkGiven given .expand := by
  cases hd : given .expand with
  | none =>
    simp only [expansions, Directives.read, checkGiven, hd]
    rfl
  | some value =>
    simp only [expansions, Directives.read, checkGiven, hd, checkValue]
    cases Expand.parse value with
    | error e => rfl
    | ok expansions =>
      change verdict (o.scope.checkRelations expansions >>= fun _ => .ok expansions) =
        o.scope.checkRelations expansions
      cases o.scope.checkRelations expansions <;> rfl

theorem verdict_projection (expansions : List Expansion) :
    verdict (o.projection given expansions) =
      o.checkGiven given (if (given .apply).isSome then .apply else .select) := by
  cases hd : given .apply with
  | some value =>
    simp only [projection, hd, Option.isSome_some, if_true, checkGiven, checkValue]
    cases Apply.parse value <;> rfl
  | none =>
    simp only [projection, hd, Option.isSome_none, Bool.false_eq_true, if_false]
    rw [← verdict_read (d := .select) (fun value => rfl)]
    cases given.read .select Select.parse <;> rfl

theorem verdict_clauses : verdict (o.clauses given) =
    forM [Directive.orderBy, .top, .skip] (o.checkGiven given) := by
  rw [clauses, List.forM_cons, List.forM_cons, List.forM_cons,
    ← verdict_read (d := .orderBy) (fun value => rfl)]
  refine verdict_bind fun _ => ?_
  rw [← verdict_read (d := .top) (fun value => rfl)]
  refine verdict_bind fun _ => ?_
  rw [← verdict_read (d := .skip) (fun value => rfl)]
  exact verdict_bind fun _ => rfl

/-- The verdict on a request: the options are checked, and then the directives that count. -/
theorem verdict_statement : verdict (o.statement given) =
    o.check >>= fun _ => forM given.order (o.checkGiven given) := by
  have hcheck : verdict o.check = o.check := by cases o.check <;> rfl
  rw [statement]
  refine (verdict_bind fun _ => ?_).trans (by rw [hcheck])
  rw [Directives.order, List.forM_cons, List.forM_cons, List.forM_cons, ← verdict_expansions]
  refine verdict_bind fun expansions => ?_
  rw [← verdict_projection expansions]
  refine verdict_bind fun projection => ?_
  rw [← verdict_read (d := .filter) (fun value => rfl)]
  refine verdict_bind fun filter => ?_
  rw [← verdict_clauses]
  cases o.clauses given <;> rfl

end Options

section Parts

variable {o : Options} {p : Params}

theorem Directive.key_injective : Function.Injective Directive.key := by
  intro d d' h
  cases d <;> cases d' <;> first | rfl | exact absurd h (by decide)

theorem Directives.forM_heeded (given : Directives) :
    forM given.heeded o.checkValue = forM given.order (o.checkGiven given) := by
  rw [heeded]
  induction given.order with
  | nil => rfl
  | cons d rest ih =>
    cases hd : given d with
    | none =>
      rw [List.filterMap_cons_none (by simp [hd]), List.forM_cons, ih]
      simp only [Options.checkGiven, hd]
      rfl
    | some value => simp [hd, ih, Options.checkGiven]

theorem verdict_compileParams :
    verdict (compileParams o p) = o.check >>= fun _ => forM p.directives.heeded o.checkValue := by
  rw [Directives.forM_heeded, ← Options.verdict_statement]
  cases h : o.statement p.directives <;> simp only [compileParams, h] <;> rfl

theorem Params.directives_single {d : Directive} {value : Text} (h : value.isAllBlank = false) :
    (Params.single d value).directives = fun d' => if d = d' then some value else none := by
  funext d'
  by_cases hd : d = d'
  · simp [single, directives, get?, getAll, hd, h]
  · have hk : d.key ≠ d'.key := fun hk => hd (Directive.key_injective hk)
    simp [single, directives, get?, getAll, hd, hk]

theorem Params.heeded_single {d : Directive} {value : Text} (h : value.isAllBlank = false) :
    (Params.single d value).directives.heeded = [(d, value)] := by
  rw [directives_single h]
  cases d <;> rfl

theorem Params.isAllBlank_of_heeded {d : Directive} {value : Text}
    (h : (d, value) ∈ p.directives.heeded) : value.isAllBlank = false := by
  obtain ⟨d', _, hd⟩ := List.mem_filterMap.mp h
  obtain ⟨v, hv, he⟩ := Option.map_eq_some_iff.mp hd
  cases he
  simpa using (Option.filter_eq_some_iff.mp hv).2

theorem verdict_single {d : Directive} {value : Text} (h : value.isAllBlank = false)
    (hc : o.check = .ok ()) :
    verdict (compileParams o (.single d value)) = o.checkValue (d, value) := by
  rw [verdict_compileParams, hc, Params.heeded_single h, List.forM_cons, List.forM_nil]
  cases o.checkValue (d, value) <;> rfl

/-- The verdict on a request is that on its parts, one after the other. -/
theorem verdict_parts (o : Options) (p : Params) :
    verdict (compileParams o p) = forM p.parts fun part => verdict (compileParams o part) := by
  have hempty : verdict (compileParams o {}) = o.check := by
    rw [verdict_compileParams]
    cases o.check <;> rfl
  rw [Params.parts, List.forM_cons, hempty, verdict_compileParams]
  cases hc : o.check with
  | error e => rfl
  | ok u =>
    -- The options are fine, so each part is refused only for its own directive.
    have hparts : ∀ given : List (Directive × Text), (∀ d ∈ given, d.2.isAllBlank = false) →
        forM given o.checkValue = forM (given.map fun (d, value) => Params.single d value)
          fun part => verdict (compileParams o part) := by
      intro given hg
      induction given with
      | nil => rfl
      | cons d rest ih =>
        obtain ⟨hd, hrest⟩ := List.forall_mem_cons.mp hg
        rw [List.map_cons, List.forM_cons, List.forM_cons, ih hrest, verdict_single hd hc]
    exact hparts _ fun d hd => Params.isAllBlank_of_heeded hd

end Parts

/-- A request is accepted if and only if each of its parts is, and otherwise its error is that of
the first part that is refused. -/
theorem outcome_of_parts (o : Options) (p : Params) :
    ((∃ q, compileParams o p = .ok q) ↔ ∀ part ∈ p.parts, ∃ q, compileParams o part = .ok q) ∧
      ∀ e, compileParams o p = .error e ↔ ∃ before part after, p.parts = before ++ part :: after ∧
        (∀ earlier ∈ before, ∃ q, compileParams o earlier = .ok q) ∧
        compileParams o part = .error e := by
  refine ⟨?_, fun e => ?_⟩
  · rw [← verdict_eq_ok, verdict_parts, forM_eq_ok]
    simp only [verdict_eq_ok]
  · rw [← verdict_eq_error, verdict_parts, forM_eq_error]
    simp only [verdict_eq_ok, verdict_eq_error]

/-- Of two directives that are refused, the one that is checked first decides the error, though it
stands last. -/
theorem outcome_of_parts_orders :
    compileParams .orders ⟨[("$top".toList, "few".toList), ("$filter".toList, "total gt 1".toList),
      ("$expand".toList, "suppliers".toList)]⟩ =
      .error (.unknownRelation "orders".toList "suppliers".toList) := by
  refine ((outcome_of_parts .orders _).2 _).mpr
    ⟨[{}], .single .expand "suppliers".toList, _, rfl, fun earlier h => ?_, by decide +kernel⟩
  rw [List.mem_singleton.mp h]
  exact verdict_eq_ok.mp (by decide +kernel)

end RequestSql
