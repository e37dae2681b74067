import RequestSql.Proofs.Descent
import RequestSql.Proofs.Tiling

namespace RequestSql

namespace Reading

variable {r r' : Reading} {t : Token} {base : Nat}

/-- What every step preserves holds of a reading that tokens lead to. -/
theorem steps?_preserves {P : Reading → Prop} (hstep : ∀ {r t r'}, P r → r.Step t r' → P r')
    {ts : List Token} (h : P r) (hs : r.steps? ts = some r') : P r' := by
  induction ts generalizing r with
  | nil =>
    cases hs
    exact h
  | cons t ts ih =>
    obtain ⟨r₁, h₁, hs⟩ := Option.bind_eq_some_iff.mp hs
    exact ih (hstep h (step_cases h₁)) hs

section OpenLevels

theorem openLevels_eq (r : Reading) : r.openLevels =
    r.level.negations + (r.outer.map fun opened => opened.2.negations + 1).sum := by
  rw [openLevels]
  generalize r.level.negations = n
  induction r.outer generalizing n with
  | nil => rfl
  | cons opened outer ih =>
    obtain ⟨span, level⟩ := opened
    rw [List.foldl_cons, ih, List.map_cons, List.sum_cons]
    dsimp only
    omega

/-- The depth counts the open levels, on top of the depth at the start. -/
structure Counted (base : Nat) (r : Reading) : Prop where
  depth : r.depth = base + r.openLevels
  negations : ∀ e, r.awaiting = .connective e → r.level.negations = 0

theorem Counted.operandRead (h : r.depth = base + r.openLevels) (e : Filter) :
    Counted base (r.operandRead e) := by
  refine ⟨?_, fun _ _ => rfl⟩
  rw [openLevels_eq] at h ⊢
  simp only [Reading.operandRead]
  omega

theorem Counted.step (h : Counted base r) (hs : r.Step t r') : Counted base r' := by
  have hdepth := h.depth
  rw [openLevels_eq] at hdepth
  cases hs with
  | not ha _ _ =>
    refine ⟨?_, fun e he => ?_⟩
    · rw [openLevels_eq]
      dsimp only
      omega
    · rw [ha] at he
      cases he
  | opening ha _ _ =>
    refine ⟨?_, fun _ _ => rfl⟩
    rw [openLevels_eq]
    simp only [List.map_cons, List.sum_cons]
    omega
  | field _ _ _ => exact ⟨h.depth, nofun⟩
  | operator _ _ _ => exact ⟨h.depth, nofun⟩
  | literal _ _ => exact .operandRead h.depth _
  | and _ _ => exact ⟨h.depth, nofun⟩
  | or ha _ =>
    refine ⟨?_, nofun⟩
    rw [openLevels_eq]
    rw [h.negations _ ha] at hdepth
    exact hdepth
  | closing ha _ ho =>
    refine .operandRead ?_ _
    rw [openLevels_eq]
    rw [h.negations _ ha, ho, List.map_cons, List.sum_cons] at hdepth
    dsimp only at hdepth ⊢
    omega

theorem Counted.count (t : Token) (h : Counted base r) : Counted base (r.count t) := by
  unfold Reading.count
  split
  · exact ⟨h.depth, h.negations⟩
  · exact h

theorem Step.depth_le (h : r.Step t r') (hd : r.depth ≤ maxDepth) : r'.depth ≤ maxDepth := by
  cases h with
  | not _ _ hd' | opening _ _ hd' => exact hd'
  | literal _ _ => exact Nat.le_trans (Nat.sub_le _ _) hd
  | closing _ _ _ => exact Nat.le_trans (Nat.sub_le _ _) (Nat.le_trans (Nat.sub_le _ _) hd)
  | _ => exact hd

end OpenLevels

section Counting

/-- No step takes a comparison back, and one that adds a comparison stays within the limit. -/
theorem Step.comparisons (h : r.Step t r') : r.comparisons ≤ r'.comparisons ∧
    (r'.comparisons = r.comparisons ∨ r'.comparisons ≤ maxComparisons) := by
  cases h with
  | field _ _ hn => exact ⟨Nat.le_succ _, .inr hn⟩
  | _ => exact ⟨Nat.le_refl _, .inl rfl⟩

theorem steps?_comparisons {ts : List Token} (h : r.steps? ts = some r') :
    r'.comparisons = r.comparisons ∨ r'.comparisons ≤ maxComparisons :=
  steps?_preserves (P := fun r' => r'.comparisons = r.comparisons ∨ r'.comparisons ≤ maxComparisons)
    (fun h hs => by
      have := hs.comparisons
      omega) (.inl rfl) h

def uncounted (c : Nat) (r : Reading) : Reading :=
  { r with comparisons := r.comparisons - c }

/-- Comparisons of earlier calls only bring the limit closer. -/
theorem step?_uncounted {c : Nat} (hc : c ≤ r.comparisons) (h : r.step? t = some r') :
    (r.uncounted c).step? t = some (r'.uncounted c) := by
  cases step_cases h with
  | not ha hk hd => exact step_not ha hk hd
  | opening ha hk hd => exact step_open ha hk hd
  | field ha hk hn =>
    have hlimit : r.comparisons - c + 1 ≤ maxComparisons := by omega
    have hcount : r.comparisons + 1 - c = r.comparisons - c + 1 := by omega
    simp [step?, count, next?, uncounted, ha, hk, hlimit, hcount]
  | operator ha hk ho => simp [step?, count, next?, uncounted, ha, hk, ho]
  | literal ha hv => simp [step?, count, next?, uncounted, ha, hv, operandRead]
  | and ha hk => exact step_and ha hk
  | or ha hk => exact step_or ha hk
  | closing ha hk ho => exact step_close ha hk ho

theorem steps?_uncounted {c : Nat} {ts : List Token} (hc : c ≤ r.comparisons)
    (h : r.steps? ts = some r') : (r.uncounted c).steps? ts = some (r'.uncounted c) := by
  induction ts generalizing r with
  | nil =>
    cases h
    rfl
  | cons t ts ih =>
    obtain ⟨r₁, h₁, h⟩ := Option.bind_eq_some_iff.mp h
    rw [steps?, step?_uncounted hc h₁]
    exact ih (Nat.le_trans hc (step_cases h₁).comparisons.1) h

end Counting

end Reading

section Acceptance

theorem Derives.count_eq {layer : Layer} {w : List TokenKind} {e : Filter} {d n : Nat}
    (h : Derives layer w e d n) : n = e.paramCount := by
  induction h with
  | single _ ih | operand _ ih | plain _ ih | not _ ih | parentheses _ ih => exact ih
  | or _ _ ihl ihr | and _ _ ihl ihr => rw [ihl, ihr, Filter.paramCount]
  | comparison _ _ => rfl

theorem Filter.paramCount_pos (e : Filter) : 0 < e.paramCount := by
  induction e with
  | comparison _ _ _ => exact Nat.one_pos
  | logical _ _ _ ihl _ =>
    rw [paramCount]
    omega
  | not _ ih => exact ih

/-- A run that begins with comparisons already counted accepts what the grammar derives within what
is left of the limit. -/
theorem run_counted_iff (finish : Token) (c : Nat) (ts : List Token) (e : Filter) :
    (Parser.run finish { comparisons := c } ts).1 = .ok e ↔
      ∃ d, Derives .disjunction (ts.map Token.kind) e d e.paramCount ∧ d ≤ maxDepth ∧
        c + e.paramCount ≤ maxComparisons := by
  rw [Parser.run_ok_iff]
  constructor
  · rintro ⟨r, hs, he⟩
    -- without the comparisons counted before, the same run is one from the start
    have hstart := Reading.steps?_uncounted (Nat.le_refl c) hs
    have hzero : ({ comparisons := c } : Reading).uncounted c = {} := by
      rw [Reading.uncounted, Nat.sub_self]
    rw [hzero] at hstart
    obtain ⟨d, n, h, hd, hn⟩ := (run_start_iff finish ts e).mp
      ((Parser.run_ok_iff finish {} ts e).mpr ⟨_, hstart, he⟩)
    obtain rfl := h.count_eq
    refine ⟨d, h, hd, ?_⟩
    obtain ⟨r', hs', _, _, _, _, hr'⟩ := h.complete (r := {}) rfl rfl
      (by rwa [Nat.zero_add]) (by rwa [Nat.zero_add]) rfl
    have hcount : r.comparisons - c = e.paramCount := by
      have := Option.some.inj (hstart.symm.trans hs')
      rw [hr'] at this
      have := congrArg Reading.comparisons this
      rwa [Nat.zero_add] at this
    have hpos := e.paramCount_pos
    have hlimit := Reading.steps?_comparisons hs
    dsimp only at hlimit
    omega
  · rintro ⟨d, h, hd, hn⟩
    obtain ⟨r, hs, level, x, _, hx, hr⟩ := h.complete (r := { comparisons := c }) rfl rfl
      (by rwa [Nat.zero_add]) hn rfl
    refine ⟨r, hs, ?_⟩
    rw [hr, ← hx]
    rfl

end Acceptance

namespace Lexer

/-- No token ends before one that comes earlier. -/
theorem tokenize_stops (t : Text) :
    (tokenize t).Pairwise fun a b => a.span.stop ≤ b.span.stop := by
  have htiling := tiling_tokenize t
  obtain ⟨us, hus, hspans⟩ := htiling.finish
  refine htiling.ordered.imp_of_mem fun {a b} _ hb hab => Nat.le_trans hab.2 ?_
  rw [hus] at hb
  rcases List.mem_append.mp hb with hb | hb
  · exact Nat.le_of_lt (hspans b hb).2
  · obtain rfl := List.mem_singleton.mp hb
    exact Nat.le_refl _

end Lexer

namespace Parser

variable {p q : Parser} {t : Text}

section Runs

/-- What counting a token and reading it preserve holds of the reading where a run stops. -/
theorem run_last {P : Reading → Prop} (hcount : ∀ {r} token, P r → P (r.count token))
    (hstep : ∀ {r token r'}, P r → r.Step token r' → P r') {r : Reading} (h : P r) (finish : Token)
    (ts : List Token) : P (run finish r ts).2.1 := by
  induction ts generalizing r with
  | nil =>
    rw [run]
    cases r.result? with
    | none => exact h
    | some e => exact h
  | cons token ts ih =>
    simp only [run]
    cases hs : (r.count token).next? token with
    | none => exact hcount token h
    | some r' => exact ih (hstep h (Reading.step_cases hs))

/-- A run succeeds only at the end. -/
theorem run_ok_rest {finish : Token} {r : Reading} {ts : List Token} {e : Filter}
    (h : (run finish r ts).1 = .ok e) : (run finish r ts).2.2 = [] := by
  induction ts generalizing r with
  | nil =>
    rw [run]
    cases r.result? <;> rfl
  | cons token ts ih =>
    simp only [run] at h ⊢
    cases hs : (r.count token).next? token with
    | none =>
      rw [hs] at h
      cases h
    | some r' =>
      rw [hs] at h
      exact ih h

def start (p : Parser) : Reading :=
  { depth := p.depth, comparisons := p.comparisons }

theorem counted_start (p : Parser) : Reading.Counted p.depth p.start :=
  ⟨rfl, nofun⟩

/-- Whatever comes of a call, the levels that are open when it stops are left again. -/
theorem parse_depth (p : Parser) : p.parse.2.depth = p.depth := by
  have hlast := run_last Reading.Counted.count Reading.Counted.step p.counted_start p.finish p.pending
  have hdepth := hlast.depth
  change (run p.finish p.start p.pending).2.1.depth -
    (run p.finish p.start p.pending).2.1.openLevels = p.depth
  omega

theorem parse_of_run {x : Except SyntaxError Filter} {last : Reading} {rest : List Token}
    (h : run p.finish p.start p.pending = (x, last, rest)) :
    p.parse = (x, { p with pending := rest, comparisons := last.comparisons }) := by
  have hdepth := p.parse_depth
  have hparse : p.parse = (x, { p with
      pending := rest
      depth := last.depth - last.openLevels
      comparisons := last.comparisons }) := by
    rw [parse, ← start, h]
  rw [hparse] at hdepth ⊢
  dsimp only at hdepth
  rw [hdepth]

end Runs

section OneCall

theorem Kept.eq (h : Kept p q) :
    q = { p with pending := q.pending, comparisons := q.comparisons } := by
  obtain ⟨pending, finish, depth, comparisons⟩ := q
  obtain ⟨rfl, rfl, _, _⟩ := h
  rfl

/-- A call returns what the functions that call each other return. They return, so the depth is never
raised beyond its limit and never lowered below zero. -/
theorem descend?_eq (hfinish : p.finish.kind = .eof)
    (hpending : ∀ token ∈ p.pending, token.kind ≠ .eof) :
    p.descend? = some p.parse ∧ Kept p p.parse.2 := by
  obtain ⟨x, q, hq, hkept, hagrees, hstops⟩ :=
    (descends (4 * p.pending.length + 3)).expression .disjunction (r := p.start)
      ⟨rfl, rfl, rfl, hfinish⟩ rfl (Nat.le_refl _)
  have hq : p.expression (4 * p.pending.length + 3) 0 = some (x, q) := hq
  have hreturns {y : Except SyntaxError Filter} {last : Reading}
      (hrun : run p.finish p.start p.pending = (y, last, q.pending))
      (hcount : last.comparisons = q.comparisons) : p.parse = (y, q) := by
    rw [parse_of_run hrun, hcount, ← hkept.eq]
  rw [descend?, hq]
  simp only [Option.bind_eq_bind, Option.bind_some]
  cases hagrees with
  | error same count =>
    rw [hreturns same count]
    exact ⟨rfl, hkept⟩
  | @ok e _ n r' count finished same =>
    obtain ⟨level, y, _, rfl, hr'⟩ := finished
    have hcount : r'.comparisons = q.comparisons := by rw [hr', count, start]
    have hlevel : r'.level = level := by rw [hr']
    obtain ⟨z, hz, hrun⟩ := ended_agrees (p := q) (r := r') (x := y) (by rw [hkept.finish, hfinish])
      (fun token hm => hpending token (hkept.pending.subset hm)) (by rw [hr']) (by rw [hr', start])
      (hstops _ rfl)
    rw [hlevel] at hz
    rw [hkept.finish] at hrun
    rw [hreturns (same.trans hrun) hcount]
    exact ⟨congrArg some hz, hkept⟩

/-- Nothing is left to read, so a call fails at the end and changes nothing. -/
theorem parse_exhausted (hfinish : p.finish.kind = .eof) (h : p.pending = []) :
    p.parse = (.error ⟨.unexpected .operand .eof, p.finish.span⟩, p) := by
  have hrun : run p.finish p.start p.pending =
      (.error ⟨.unexpected .operand .eof, p.finish.span⟩, p.start, p.pending) := by
    rw [h]
    simp [run, start, Reading.result?, Reading.complaint, hfinish]
  rw [parse_of_run hrun]
  rfl

end OneCall

section InnerCalls

/-- A function of the parser returns, with the depth as it found it. -/
def Returns (p : Parser) (answer : Option (Except SyntaxError Filter × Parser)) : Prop :=
  ∃ x q, answer = some (x, q) ∧ Kept p q

structure Returning (p : Parser) (n : Nat) : Prop where
  expression : ∀ layer : Layer, Returns p (p.expression n layer.least)
  unary : Returns p (p.unary n)
  primary : Returns p (p.primary n)
  comparison : ∀ field, p.current.kind = .identifier field → Kept p (p.comparison field).2
  literal : Kept p p.literal.2

theorem Answers.returns {layer : Layer} {r : Reading}
    {answer : Option (Except SyntaxError Filter × Parser)} (h : Answers layer r p answer) :
    Returns p answer := by
  obtain ⟨x, q, hq, hkept, _⟩ := h
  exact ⟨x, q, hq, hkept⟩

theorem returning (hfinish : p.finish.kind = .eof) {n : Nat} (hn : 4 * p.pending.length + 3 ≤ n) :
    Returning p n := by
  have hstart : Abreast p.start p := ⟨rfl, rfl, rfl, hfinish⟩
  refine ⟨fun layer => ?_, ?_, ?_, fun field hk => ?_, ?_⟩
  · refine ((descends n).expression layer hstart ?_ hn).returns
    cases layer with
    | disjunction => rfl
    | conjunction => exact ⟨rfl, rfl⟩
    | unary | primary => trivial
  · exact ((descends n).unary hstart (by omega)).returns
  · by_cases hk : p.current.kind = .keyword .not
    · -- a negation is not the business of this function
      obtain ⟨n, rfl⟩ := Nat.exists_eq_add_one.mpr (show 0 < n by omega)
      rw [primary, hk]
      exact ⟨_, p, rfl, .refl p⟩
    · exact ((descends n).primary hstart hk (by omega)).returns
  · exact (comparison_agrees hstart hk).1
  · exact (literal_agrees (r := { awaiting := .literal [] .eq, comparisons := p.comparisons })
      hfinish rfl rfl).1

end InnerCalls

section Calls

def position (p : Parser) : Nat :=
  p.current.span.stop

/-- A parser of a text between two calls. -/
structure Underway (t : Text) (p : Parser) : Prop where
  pending : p.pending <:+ Lexer.tokens t
  finish : p.finish = Lexer.endToken t
  depth : p.depth = 0

def calls (t : Text) : Nat → Parser
  | 0 => ofText t
  | n + 1 => (calls t n).parse.2

theorem Underway.finish_kind (h : Underway t p) : p.finish.kind = .eof := by
  rw [h.finish]
  rfl

theorem Underway.descend?_eq (h : Underway t p) : p.descend? = some p.parse ∧ Kept p p.parse.2 :=
  Parser.descend?_eq h.finish_kind fun _ hm => Lexer.tokens_ne_eof (h.pending.subset hm)

/-- A call leaves a parser that can be called again. -/
theorem Underway.parse (h : Underway t p) : Underway t p.parse.2 := by
  have hkept := h.descend?_eq.2
  exact ⟨hkept.pending.trans h.pending, hkept.finish.trans h.finish, hkept.depth.trans h.depth⟩

theorem underway_calls (t : Text) (n : Nat) : Underway t (calls t n) := by
  induction n with
  | zero => exact ⟨List.suffix_rfl, rfl, rfl⟩
  | succ n ih => exact ih.parse

/-- A parser that has read on stands no earlier than before. -/
theorem Underway.position_le (h : Underway t p) (hkept : Kept p q) : p.position ≤ q.position := by
  obtain ⟨read, hread⟩ := h.pending
  obtain ⟨front, hfront⟩ := hkept.pending
  have hstops := Lexer.tokenize_stops t
  rw [Lexer.tokenize, ← hread, ← h.finish, ← hfront] at hstops
  cases front with
  | nil =>
    rw [List.nil_append] at hfront
    rw [position, position, current, current, ← hfront, hkept.finish]
  | cons token front =>
    have hcurrent : p.current = token := by rw [current, ← hfront]; rfl
    have hmem : q.current ∈ q.pending ++ [p.finish] := by
      rw [current, ← hkept.finish]
      cases q.pending with
      | nil => exact List.mem_singleton_self _
      | cons first rest => exact List.mem_cons_self
    have hlater : (token :: (front ++ (q.pending ++ [p.finish]))).Pairwise
        fun a b => a.span.stop ≤ b.span.stop := by
      refine hstops.sublist ?_
      simp
    rw [position, position, hcurrent]
    exact List.rel_of_pairwise_cons hlater (List.mem_append_right _ hmem)

structure SafeCall (t : Text) (p : Parser) : Prop extends Underway t p where
  depth_after : p.parse.2.depth = 0
  descent : p.descend? = some p.parse
  /-- At every token the depth is the number of levels that are open, and within its limit. -/
  within : ∀ front r, front <+: p.pending → p.start.steps? front = some r →
    r.depth = r.openLevels ∧ r.depth ≤ 128
  position : p.position ≤ p.parse.2.position
  comparisons : p.comparisons ≤ p.parse.2.comparisons
  accepts : ∀ e, p.parse.1 = .ok e ↔
    ∃ d, Derives .disjunction (p.pending.map Token.kind) e d e.paramCount ∧ d ≤ 128 ∧
      p.comparisons + e.paramCount ≤ 1024

theorem Underway.within (h : Underway t p) {front : List Token} {r : Reading}
    (hs : p.start.steps? front = some r) : r.depth = r.openLevels ∧ r.depth ≤ maxDepth := by
  have hstart : Reading.Counted 0 p.start ∧ p.start.depth ≤ maxDepth := by
    have hdepth := h.depth
    refine ⟨hdepth ▸ p.counted_start, ?_⟩
    rw [start, hdepth]
    exact Nat.zero_le _
  obtain ⟨hcounted, hd⟩ := Reading.steps?_preserves
    (P := fun r => Reading.Counted 0 r ∧ r.depth ≤ maxDepth)
    (fun h hs => ⟨h.1.step hs, hs.depth_le h.2⟩) hstart hs
  exact ⟨hcounted.depth.trans (Nat.zero_add _), hd⟩

theorem Underway.safeCall (h : Underway t p) : SafeCall t p := by
  obtain ⟨hdescent, hkept⟩ := h.descend?_eq
  refine ⟨h, hkept.depth.trans h.depth, hdescent, fun _ _ _ hs => h.within hs,
    h.position_le hkept, hkept.comparisons, fun e => ?_⟩
  have hstart : p.start = { comparisons := p.comparisons } := by rw [start, h.depth]
  change (run p.finish p.start p.pending).1 = .ok e ↔ _
  rw [hstart]
  exact run_counted_iff p.finish p.comparisons p.pending e

/-- After a call that has succeeded nothing is left for any later one. -/
theorem calls_exhausted {m n : Nat} {e : Filter} (h : (calls t m).parse.1 = .ok e) (hmn : m < n) :
    (calls t n).pending = [] := by
  induction n, hmn using Nat.le_induction with
  | base => exact run_ok_rest h
  | succ n _ ih =>
    rw [calls, parse_exhausted (underway_calls t n).finish_kind ih]
    exact ih

theorem calls_fail {m n : Nat} {e : Filter} (h : (calls t m).parse.1 = .ok e) (hmn : m < n) :
    ∃ x, (calls t n).parse.1 = .error x ∧ x.fault.found? = some .eof := by
  rw [parse_exhausted (underway_calls t n).finish_kind (calls_exhausted h hmn)]
  exact ⟨_, rfl, rfl⟩

theorem calls_ok_unique {m n : Nat} {e e' : Filter} (h : (calls t m).parse.1 = .ok e)
    (h' : (calls t n).parse.1 = .ok e') : n = m := by
  rcases Nat.lt_trichotomy m n with hlt | rfl | hlt
  · obtain ⟨x, hx, _⟩ := calls_fail h hlt
    rw [hx] at h'
    cases h'
  · rfl
  · obtain ⟨x, hx, _⟩ := calls_fail h' hlt
    rw [hx] at h
    cases h

/-- A parser can be called any number of times, whatever came of the calls before. At most one call
succeeds, and every later one fails at the end. In whatever state the parser of a text is, its functions
return with the depth as they found it. -/
theorem calls_reusable (t : Text) :
    (∀ n, SafeCall t (calls t n)) ∧
    (∀ m e, (calls t m).parse.1 = .ok e →
      (∀ n e', (calls t n).parse.1 = .ok e' → n = m) ∧
      ∀ n, m < n → ∃ x, (calls t n).parse.1 = .error x ∧ x.fault.found? = some .eof) ∧
    ∀ p : Parser, p.finish = Lexer.endToken t → ∀ n, 4 * p.pending.length + 3 ≤ n →
      Returning p n := by
  refine ⟨fun n => (underway_calls t n).safeCall, fun m e h => ⟨?_, ?_⟩, fun p hfinish n hn => ?_⟩
  · intro n e' h'
    exact calls_ok_unique h h'
  · intro n hmn
    exact calls_fail h hmn
  · exact returning (by rw [hfinish]; rfl) hn

/-- A call that fails on a text of two comparisons without a connective, one that goes on from there
and succeeds, and one more. -/
theorem calls_reusable_second :
    (calls "a eq 1 b eq 2".toList 0).parse.1 =
        .error ⟨.unexpected .connective (.identifier "b".toList), ⟨7, 8⟩⟩ ∧
      SafeCall "a eq 1 b eq 2".toList (calls "a eq 1 b eq 2".toList 1) ∧
      (calls "a eq 1 b eq 2".toList 1).parse.1 = .ok (.comparison "b".toList .eq (.int 2)) ∧
      (∃ x, (calls "a eq 1 b eq 2".toList 2).parse.1 = .error x ∧ x.fault.found? = some .eof) ∧
      Returning { calls "a eq 1 b eq 2".toList 1 with depth := 128 } 15 := by
  have hok : (calls "a eq 1 b eq 2".toList 1).parse.1 =
      .ok (.comparison "b".toList .eq (.int 2)) := by decide
  obtain ⟨hsafe, hlater, hreturning⟩ := calls_reusable "a eq 1 b eq 2".toList
  exact ⟨by decide, hsafe 1, hok, (hlater 1 _ hok).2 2 (by decide),
    hreturning _ (by decide) 15 (by decide)⟩

end Calls

end Parser

end RequestSql
