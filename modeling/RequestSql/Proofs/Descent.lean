import Mathlib.Data.List.Infix
import RequestSql.Proofs.Recognition

namespace RequestSql

namespace Parser

def current (p : Parser) : Token :=
  p.pending.head?.getD p.finish

def advance (p : Parser) : Parser :=
  { p with pending := p.pending.tail }

def raise? (p : Parser) : Option Parser :=
  if p.depth < maxDepth then some { p with depth := p.depth + 1 } else none

def lower? (p : Parser) : Option Parser :=
  if 0 < p.depth then some { p with depth := p.depth - 1 } else none

def fail {α : Type} (p : Parser) (fault : SyntaxFault) : Except SyntaxError α × Parser :=
  (.error ⟨fault, p.current.span⟩, p)

/-- How tightly a connective binds on its left and on its right. -/
def binding? : TokenKind → Option (Nat × Nat × LogicalOp)
  | .keyword .or => some (1, 2, .or)
  | .keyword .and => some (3, 4, .and)
  | _ => none

def literal (p : Parser) : Except SyntaxError Value × Parser :=
  match p.current.kind.literal?, p.current.kind with
  | some value, _ => (.ok value, p.advance)
  | none, .error e => p.fail (.malformed e)
  | none, found => p.fail (.unexpected .literal found)

def rightSide (field : Text) (p : Parser) : Except SyntaxError Filter × Parser :=
  match p.current.kind with
  | .keyword k =>
    match CompareOp.ofKeyword? k with
    | some op =>
      let (value, p) := p.advance.literal
      (value.map (.comparison field op), p)
    | none => p.fail (.unexpected .operator (.keyword k))
  | .identifier name => p.fail (.unknownOperator name)
  | .error e => p.fail (.malformed e)
  | found => p.fail (.unexpected .operator found)

def comparison (field : Text) (p : Parser) : Except SyntaxError Filter × Parser :=
  let p := { p with comparisons := p.comparisons + 1 }
  if maxComparisons < p.comparisons then p.fail .tooManyComparisons else p.advance.rightSide field

def closed (opening : Span) (e : Filter) (p : Parser) : Except SyntaxError Filter × Parser :=
  if p.current.kind = .rightParen then (.ok e, p.advance)
  else if p.current.kind = .eof then
    (.error ⟨.missingClose, opening.merge p.current.span⟩, p)
  else p.fail (.unexpected .close p.current.kind)

mutual

/-- An expression whose connectives bind at least as tightly as asked for. The first number bounds
the calls that are nested and the turns of the loop; there is no answer if it is too small. -/
def expression : Nat → Nat → Parser → Option (Except SyntaxError Filter × Parser)
  | 0, _, _ => none
  | n + 1, least, p => do
    let (left, p) ← unary n p
    match left with
    | .ok left => chain n least left p
    | .error x => some (.error x, p)

def chain : Nat → Nat → Filter → Parser → Option (Except SyntaxError Filter × Parser)
  | 0, _, _, _ => none
  | n + 1, least, left, p =>
    match binding? p.current.kind with
    | some (lower, upper, op) =>
      if lower < least then some (.ok left, p)
      else do
        let (right, p) ← expression n upper p.advance
        match right with
        | .ok right => chain n least (.logical op left right) p
        | .error x => some (.error x, p)
    | none => some (.ok left, p)

def unary : Nat → Parser → Option (Except SyntaxError Filter × Parser)
  | 0, _ => none
  | n + 1, p =>
    if p.current.kind = .keyword .not then
      if maxDepth ≤ p.depth then some (p.fail .tooDeep)
      else do
        let p ← p.raise?
        let (inner, p) ← unary n p.advance
        let p ← p.lower?
        some (inner.map .not, p)
    else primary n p

def primary : Nat → Parser → Option (Except SyntaxError Filter × Parser)
  | 0, _ => none
  | n + 1, p =>
    match p.current.kind with
    | .leftParen =>
      if maxDepth ≤ p.depth then some (p.fail .tooDeep)
      else do
        let q ← p.raise?
        let (inner, q) ← expression n 0 q.advance
        let q ← q.lower?
        match inner with
        | .ok e => some (q.closed p.current.span e)
        | .error x => some (.error x, q)
    | .identifier field => some (p.comparison field)
    | .error e => some (p.fail (.malformed e))
    | found => some (p.fail (.unexpected .operand found))

end

def ended (e : Filter) (p : Parser) : Except SyntaxError Filter × Parser :=
  match p.current.kind with
  | .eof => (.ok e, p)
  | .rightParen => p.fail .unexpectedClose
  | found => p.fail (.unexpected .connective found)

def descend? (p : Parser) : Option (Except SyntaxError Filter × Parser) := do
  let (outcome, p) ← p.expression (4 * p.pending.length + 3) 0
  match outcome with
  | .ok e => some (p.ended e)
  | .error x => some (.error x, p)

end Parser

def Layer.least : Layer → Nat
  | .disjunction => 0
  | .conjunction => 2
  | .unary | .primary => 4

theorem Reading.Step.ne_eof {r r' : Reading} {t : Token} (h : r.Step t r') : t.kind ≠ .eof := by
  cases h with
  | literal _ hv =>
    intro hk
    rw [hk] at hv
    cases hv
  | not _ hk _ | opening _ hk _ | field _ hk _ | operator _ hk _ | and _ hk | or _ hk
  | closing _ hk _ =>
    rw [hk]
    nofun

/-- Where no step leads on, a token is refused. -/
theorem Reading.step?_eq_none {r : Reading} {t : Token} (h : ∀ r', ¬r.Step t r') :
    r.step? t = none := by
  cases hs : r.step? t with
  | none => rfl
  | some r' => exact absurd (step_cases hs) (h r')

theorem Reading.step?_connective {r : Reading} {t : Token} {e : Filter}
    (ha : r.awaiting = .connective e) (hand : t.kind ≠ .keyword .and) (hor : t.kind ≠ .keyword .or)
    (hclose : t.kind = .rightParen → r.outer = []) : r.step? t = none := by
  refine step?_eq_none fun r' h => ?_
  cases h with
  | not ha' _ _ | opening ha' _ _ | field ha' _ _ | operator ha' _ _ | literal ha' _ =>
    rw [ha] at ha'
    cases ha'
  | and _ hk => exact hand hk
  | or _ hk => exact hor hk
  | closing _ hk ho =>
    rw [hclose hk] at ho
    cases ho

theorem Reading.step?_operand {r : Reading} {t : Token} (ha : r.awaiting = .operand)
    (hnot : t.kind ≠ .keyword .not) (hopen : t.kind ≠ .leftParen)
    (hfield : ∀ name, t.kind ≠ .identifier name) : r.step? t = none := by
  refine step?_eq_none fun r' h => ?_
  cases h with
  | not _ hk _ => exact hnot hk
  | opening _ hk _ => exact hopen hk
  | field _ hk _ => exact hfield _ hk
  | operator ha' _ _ | literal ha' _ | and ha' _ | or ha' _ | closing ha' _ _ =>
    rw [ha] at ha'
    cases ha'

/-- At the limit of the depth nothing that would go deeper is read. -/
theorem Reading.step?_deep {r : Reading} {t : Token} (ha : r.awaiting = .operand)
    (hk : t.kind = .keyword .not ∨ t.kind = .leftParen) (hd : maxDepth ≤ r.depth) :
    r.step? t = none := by
  refine step?_eq_none fun r' h => ?_
  cases h with
  | not _ _ hd' | opening _ _ hd' => exact Nat.not_lt.mpr hd hd'
  | field _ hk' _ =>
    rw [hk'] at hk
    rcases hk with hk | hk <;> cases hk
  | operator ha' _ _ | literal ha' _ | and ha' _ | or ha' _ | closing ha' _ _ =>
    rw [ha] at ha'
    cases ha'

/-- Only a field where an operand has to come adds a comparison. -/
theorem Reading.count_eq {r : Reading} {t : Token}
    (h : r.awaiting = .operand → ∀ name, t.kind ≠ .identifier name) : r.count t = r := by
  unfold count
  split
  · rename_i name ha hk
    exact absurd hk (h ha name)
  · rfl

namespace Parser

section Machine

variable {p : Parser} {r r' : Reading}

theorem current_eq_finish (h : p.pending = []) : p.current = p.finish := by
  rw [current, h]
  rfl

/-- Before the end the parser has its current token to read and then the rest. -/
theorem pending_eq (hfinish : p.finish.kind = .eof) (hk : p.current.kind ≠ .eof) :
    p.pending = p.current :: p.advance.pending := by
  cases hp : p.pending with
  | nil =>
    rw [current_eq_finish hp] at hk
    exact absurd hfinish hk
  | cons t rest => simp [current, advance, hp]

/-- A token that may stand at its place is read. -/
theorem run_read (hfinish : p.finish.kind = .eof) (h : r.step? p.current = some r') :
    run p.finish r p.pending = run p.finish r' p.advance.pending := by
  have hnext : (r.count p.current).next? p.current = some r' := h
  rw [pending_eq hfinish (Reading.Step.ne_eof (Reading.step_cases h)), run]
  simp only [hnext]

/-- A token that may not stand at its place, or the end, is where a run fails. -/
theorem run_refused (hfinish : p.finish.kind = .eof) (h : r.step? p.current = none)
    (hend : p.pending = [] → r.result? = none) : run p.finish r p.pending =
      (.error ((r.count p.current).complaint p.current), r.count p.current, p.pending) := by
  have hnext : (r.count p.current).next? p.current = none := h
  cases hp : p.pending with
  | nil =>
    have hcount : r.count p.finish = r := Reading.count_eq fun _ => by simp [hfinish]
    rw [current_eq_finish hp, hcount, run, hend hp]
  | cons t rest =>
    have ht : p.current = t := by rw [current, hp]; rfl
    rw [ht] at hnext ⊢
    simp only [run, hnext]

end Machine

section Agreement

structure Abreast (r : Reading) (p : Parser) : Prop where
  operand : r.awaiting = .operand
  depth : r.depth = p.depth
  comparisons : r.comparisons = p.comparisons
  finish : p.finish.kind = .eof

/-- What a function of the parser leaves as it was, and what it only moves forward. -/
structure Kept (p q : Parser) : Prop where
  depth : q.depth = p.depth
  finish : q.finish = p.finish
  pending : q.pending <:+ p.pending
  comparisons : p.comparisons ≤ q.comparisons

/-- A run from a reading goes on after a text of a layer where the function for the layer has
returned, or it fails as the function does. -/
inductive Agrees (layer : Layer) (r : Reading) (p : Parser) :
    Except SyntaxError Filter → Parser → Prop where
  | ok {e q n r'} (count : q.comparisons = p.comparisons + n) (finished : layer.Finished r n r' e)
      (same : run p.finish r p.pending = run p.finish r' q.pending) : Agrees layer r p (.ok e) q
  | error {x q last} (same : run p.finish r p.pending = (.error x, last, q.pending))
      (count : last.comparisons = q.comparisons) : Agrees layer r p (.error x) q

variable {p q s : Parser} {r r' : Reading} {layer : Layer}

theorem Kept.refl (p : Parser) : Kept p p :=
  ⟨rfl, rfl, List.suffix_rfl, Nat.le_refl _⟩

theorem Kept.trans (h : Kept p q) (h' : Kept q s) : Kept p s :=
  ⟨h'.depth.trans h.depth, h'.finish.trans h.finish, h'.pending.trans h.pending,
    Nat.le_trans h.comparisons h'.comparisons⟩

theorem kept_advance (p : Parser) : Kept p p.advance :=
  ⟨rfl, rfl, List.tail_suffix _, Nat.le_refl _⟩

/-- A function that fails at the next token agrees with a reading that refuses the token. -/
theorem agrees_fail {fault : SyntaxFault} (hfinish : p.finish.kind = .eof)
    (h : r.step? p.current = none) (hend : p.pending = [] → r.result? = none)
    (hfault : (r.count p.current).complaint p.current = ⟨fault, p.current.span⟩)
    (hcount : (r.count p.current).comparisons = q.comparisons) (hq : q.pending = p.pending) :
    Agrees layer r p (.error ⟨fault, p.current.span⟩) q := by
  refine .error ?_ hcount
  rw [run_refused hfinish h hend, hfault, hq]

/-- A failure after more of the text has been read is a failure of the whole. -/
theorem Agrees.error_of_run {layer' : Layer} {x : SyntaxError} (h : Agrees layer' r' q (.error x) s)
    (hfinish : q.finish = p.finish)
    (same : run p.finish r p.pending = run p.finish r' q.pending) :
    Agrees layer r p (.error x) s := by
  cases h with
  | error hrun count =>
    refine .error ?_ count
    rw [same, ← hfinish, hrun]

end Agreement

section Comparisons

variable {p : Parser} {r : Reading} {field : Text}

/-- A literal is read, or the reading that awaits it fails where the function does. -/
theorem literal_agrees {op : CompareOp} (hfinish : p.finish.kind = .eof)
    (ha : r.awaiting = .literal field op) (hc : r.comparisons = p.comparisons) :
    Kept p p.literal.2 ∧
      ((∃ value, p.literal = (.ok value, p.advance) ∧ p.current.kind.literal? = some value) ∨
        ∃ x, p.literal = (.error x, p) ∧ Agrees .primary r p (.error x) p) := by
  have hend : p.pending = [] → r.result? = none := fun _ => by
    rw [Reading.result?, ha]
  have hcount : r.count p.current = r := by
    rw [Reading.count, ha]
  have hstep : p.current.kind.literal? = none → r.step? p.current = none := fun h => by
    rw [Reading.step?, hcount, Reading.next?, ha]
    simp only [h, Option.map_none]
  unfold literal
  split
  · rename_i value hv
    exact ⟨kept_advance p, .inl ⟨value, rfl, hv⟩⟩
  · rename_i e hv hk
    refine ⟨.refl p, .inr ⟨_, rfl, agrees_fail hfinish (hstep hv) hend ?_ (by rw [hcount, hc]) rfl⟩⟩
    rw [hcount]
    simp [Reading.complaint, ha, hk]
  · rename_i hv hk
    refine ⟨.refl p, .inr ⟨_, rfl, agrees_fail hfinish (hstep hv) hend ?_ (by rw [hcount, hc]) rfl⟩⟩
    rw [hcount]
    unfold Reading.complaint
    split <;> simp_all

/-- The right-hand side of a comparison is read, or the reading that awaits it fails where the
function does. -/
theorem rightSide_agrees (hfinish : p.finish.kind = .eof) (ha : r.awaiting = .operator field)
    (hc : r.comparisons = p.comparisons) :
    Kept p (p.rightSide field).2 ∧
      ((∃ e q, p.rightSide field = (.ok e, q) ∧ q.comparisons = p.comparisons ∧
        run p.finish r p.pending = run p.finish (r.operandRead e) q.pending) ∨
      ∃ x q, p.rightSide field = (.error x, q) ∧ Agrees .primary r p (.error x) q) := by
  have hcount : r.count p.current = r := by
    rw [Reading.count, ha]
  have hfail {fault : SyntaxFault} (hstep : r.step? p.current = none)
      (hfault : r.complaint p.current = ⟨fault, p.current.span⟩) :
      Agrees .primary r p (.error ⟨fault, p.current.span⟩) p :=
    agrees_fail hfinish hstep (fun _ => by rw [Reading.result?, ha]) (by rw [hcount, hfault])
      (by rw [hcount, hc]) rfl
  unfold rightSide
  split
  · rename_i k hk
    split
    · rename_i op hop
      have hstep : r.step? p.current = some { r with awaiting := .literal field op } := by
        simp [Reading.step?, hcount, Reading.next?, ha, hk, hop]
      have hread := run_read hfinish hstep
      have hkept := kept_advance p
      obtain ⟨hliteral, ⟨value, hp, hv⟩ | ⟨x, hp, hx⟩⟩ :=
        literal_agrees (p := p.advance) (r := { r with awaiting := .literal field op }) hfinish rfl hc
      · rw [hp] at hliteral ⊢
        refine ⟨hkept.trans hliteral, .inl ⟨_, _, rfl, rfl, ?_⟩⟩
        rw [hread]
        refine run_read (p := p.advance) hfinish ?_
        simp [Reading.step?, Reading.count, Reading.next?, hv, Reading.operandRead]
      · rw [hp] at hliteral ⊢
        exact ⟨hkept, .inr ⟨x, _, rfl, hx.error_of_run rfl hread⟩⟩
    · rename_i hop
      refine ⟨.refl p, .inr ⟨_, _, rfl, hfail ?_ ?_⟩⟩
      · simp [Reading.step?, hcount, Reading.next?, ha, hk, hop]
      · simp [Reading.complaint, ha, hk]
  · rename_i name hk
    refine ⟨.refl p, .inr ⟨_, _, rfl, hfail ?_ ?_⟩⟩
    · simp [Reading.step?, hcount, Reading.next?, ha, hk]
    · simp [Reading.complaint, ha, hk]
  · rename_i e hk
    refine ⟨.refl p, .inr ⟨_, _, rfl, hfail ?_ ?_⟩⟩
    · simp [Reading.step?, hcount, Reading.next?, ha, hk]
    · simp [Reading.complaint, ha, hk]
  · rename_i hkeyword hname herror
    refine ⟨.refl p, .inr ⟨_, _, rfl, hfail ?_ ?_⟩⟩
    · simp only [Reading.step?, hcount, Reading.next?, ha]
    · unfold Reading.complaint
      split <;> simp_all

/-- The function for comparisons agrees with the reading from the field on. -/
theorem comparison_agrees (h : Abreast r p) (hk : p.current.kind = .identifier field) :
    Kept p (p.comparison field).2 ∧
      Agrees .primary r p (p.comparison field).1 (p.comparison field).2 := by
  have hcounted : r.count p.current = { r with comparisons := r.comparisons + 1 } := by
    simp [Reading.count, h.operand, hk]
  unfold comparison
  dsimp only
  split
  · rename_i hmany
    have hlimit : ¬r.comparisons + 1 ≤ maxComparisons := by
      rw [h.comparisons]
      exact Nat.not_le.mpr hmany
    refine ⟨⟨rfl, rfl, List.suffix_rfl, Nat.le_succ _⟩, agrees_fail h.finish ?_ ?_ ?_ ?_ rfl⟩
    · simp [Reading.step?, hcounted, Reading.next?, h.operand, hk, hlimit]
    · intro _
      simp [Reading.result?, h.operand]
    · simp [hcounted, Reading.complaint, h.operand, hk]
    · rw [hcounted]
      exact congrArg (· + 1) h.comparisons
  · rename_i hmany
    have hlimit : r.comparisons + 1 ≤ maxComparisons := by
      rw [h.comparisons]
      exact Nat.not_lt.mp hmany
    have hstep : r.step? p.current =
        some { r with awaiting := .operator field, comparisons := r.comparisons + 1 } := by
      simp [Reading.step?, hcounted, Reading.next?, h.operand, hk, hlimit]
    have hread := run_read h.finish hstep
    obtain ⟨hkept, ⟨e, q, hq, hcount, hrun⟩ | ⟨x, q, hq, hx⟩⟩ :=
      rightSide_agrees (p := ({ p with comparisons := p.comparisons + 1 } : Parser).advance)
        (r := { r with awaiting := .operator field, comparisons := r.comparisons + 1 })
        h.finish rfl (congrArg (· + 1) h.comparisons)
    · rw [hq] at hkept ⊢
      refine ⟨⟨hkept.depth, hkept.finish, hkept.pending.trans (List.tail_suffix _), ?_⟩,
        .ok (n := 1) hcount rfl (hread.trans hrun)⟩
      rw [hcount]
      exact Nat.le_succ _
    · rw [hq] at hkept ⊢
      refine ⟨⟨hkept.depth, hkept.finish, hkept.pending.trans (List.tail_suffix _),
        Nat.le_of_succ_le hkept.comparisons⟩, hx.error_of_run rfl hread⟩

end Comparisons

section Calls

structure Following (r : Reading) (x : Filter) (p : Parser) : Prop where
  operand : r.awaiting = .connective x
  negations : r.level.negations = 0
  depth : r.depth = p.depth
  comparisons : r.comparisons = p.comparisons
  finish : p.finish.kind = .eof

def Stops (layer : Layer) (p : Parser) : Prop :=
  ∀ lower upper op, binding? p.current.kind = some (lower, upper, op) → lower < layer.least

def Answers (layer : Layer) (r : Reading) (p : Parser)
    (answer : Option (Except SyntaxError Filter × Parser)) : Prop :=
  ∃ x q, answer = some (x, q) ∧ Kept p q ∧ Agrees layer r p x q ∧
    ∀ e, x = .ok e → Stops layer q

structure Descends (n : Nat) : Prop where
  primary : ∀ {r p}, Abreast r p → p.current.kind ≠ .keyword .not →
    4 * p.pending.length + 1 ≤ n → Answers .primary r p (p.primary n)
  unary : ∀ {r p}, Abreast r p → 4 * p.pending.length + 2 ≤ n → Answers .unary r p (p.unary n)
  expression : ∀ (layer : Layer) {r p}, Abreast r p → layer.Ready r.level →
    4 * p.pending.length + 3 ≤ n → Answers layer r p (p.expression n layer.least)
  conjuncts : ∀ {r x p}, Following r x p → 4 * p.pending.length + 1 ≤ n →
    Answers .conjunction r p (p.chain n 2 (r.level.conjoin x))
  disjuncts : ∀ {r x p}, Following r x p →
    r.level.disjunct = none ∨ p.current.kind ≠ .keyword .and → 4 * p.pending.length + 1 ≤ n →
    Answers .disjunction r p (p.chain n 0 (r.level.close x))

variable {p q s : Parser} {r r' : Reading} {layer : Layer} {x y : Filter} {m n : Nat}

theorem length_advance (hfinish : p.finish.kind = .eof) (hk : p.current.kind ≠ .eof) :
    p.pending.length = p.advance.pending.length + 1 := by
  rw [pending_eq hfinish hk, List.length_cons]

theorem stops_of_tight (h : layer.least = 4) (p : Parser) : Stops layer p := by
  intro lower upper op hb
  rw [h]
  unfold binding? at hb
  split at hb
  · cases hb
    decide
  · cases hb
    decide
  · cases hb

theorem Stops.ne_and (h : Stops .disjunction p) : p.current.kind ≠ .keyword .and :=
  fun hand => absurd (h 3 4 .and (by rw [hand]; rfl)) (by decide)

theorem Stops.ne_or (h : Stops .disjunction p) : p.current.kind ≠ .keyword .or :=
  fun hor => absurd (h 1 2 .or (by rw [hor]; rfl)) (by decide)

/-- A function that returns at once has read nothing. -/
theorem answers_ok (finished : layer.Finished r 0 r x) (hstops : Stops layer p) :
    Answers layer r p (some (.ok x, p)) :=
  ⟨_, _, rfl, .refl p, .ok rfl finished rfl, fun _ _ => hstops⟩

theorem answers_error {z : SyntaxError} (hkept : Kept p q) (h : Agrees layer r p (.error z) q) :
    Answers layer r p (some (.error z, q)) :=
  ⟨_, _, rfl, hkept, h, nofun⟩

/-- A function that fails where an operand has to come, at a token that is no field. -/
theorem answers_fail {fault : SyntaxFault} (h : Abreast r p)
    (hname : ∀ name, p.current.kind ≠ .identifier name) (hstep : r.step? p.current = none)
    (hfault : r.complaint p.current = ⟨fault, p.current.span⟩) :
    Answers layer r p (some (p.fail fault)) := by
  have hcount : r.count p.current = r := Reading.count_eq fun _ => hname
  refine answers_error (.refl p) (agrees_fail h.finish hstep ?_ ?_ ?_ rfl)
  · intro _
    rw [Reading.result?, h.operand]
  · rw [hcount, hfault]
  · rw [hcount, h.comparisons]

/-- An answer for the rest of a text is an answer for the whole, once the first part has been read. -/
theorem Answers.after {answer : Option (Except SyntaxError Filter × Parser)}
    (h : Answers layer r' q answer) (hkept : Kept p q)
    (same : run p.finish r p.pending = run p.finish r' q.pending)
    (count : q.comparisons = p.comparisons + m)
    (finished : ∀ {m' r'' e}, layer.Finished r' m' r'' e → layer.Finished r (m + m') r'' e) :
    Answers layer r p answer := by
  obtain ⟨x, s, rfl, hrest, hagrees, hstops⟩ := h
  refine ⟨x, s, rfl, hkept.trans hrest, ?_, hstops⟩
  cases hagrees with
  | ok count' finished' same' =>
    refine .ok ?_ (finished finished') ?_
    · rw [count', count, Nat.add_assoc]
    · rw [same, ← hkept.finish, same']
  | error same' count' =>
    refine .error ?_ count'
    rw [same, ← hkept.finish, same']

theorem Answers.plain {answer : Option (Except SyntaxError Filter × Parser)}
    (h : Answers .primary r p answer) : Answers .unary r p answer := by
  obtain ⟨x, q, hq, hkept, hagrees, hstops⟩ := h
  refine ⟨x, q, hq, hkept, ?_, hstops⟩
  cases hagrees with
  | ok count finished same => exact .ok count finished same
  | error same count => exact .error same count

theorem raise?_eq (h : p.depth < maxDepth) : p.raise? = some { p with depth := p.depth + 1 } :=
  if_pos h

theorem lower?_eq {d : Nat} (h : p.depth = d + 1) : p.lower? = some { p with depth := d } := by
  rw [lower?, h, if_pos (Nat.succ_pos _)]
  rfl

theorem unary_descends (ih : Descends n) (h : Abreast r p) (hn : 4 * p.pending.length + 2 ≤ n + 1) :
    Answers .unary r p (p.unary (n + 1)) := by
  rw [unary]
  split
  · rename_i hk
    split
    · rename_i hdeep
      refine answers_fail h (by simp [hk])
        (Reading.step?_deep h.operand (.inl hk) (by rwa [h.depth])) ?_
      simp [Reading.complaint, h.operand, hk]
    · rename_i hdeep
      have hdepth : p.depth < maxDepth := Nat.not_le.mp hdeep
      have hstep := Reading.step_not h.operand hk (by rw [h.depth]; exact hdepth)
      have hread := run_read h.finish hstep
      have hlen := length_advance h.finish (by simp [hk])
      obtain ⟨inner, q, hq, hkept, hagrees, _⟩ := ih.unary
        (p := ({ p with depth := p.depth + 1 } : Parser).advance)
        (r := { r with
          level := { r.level with negations := r.level.negations + 1 }
          depth := r.depth + 1 })
        ⟨h.operand, congrArg (· + 1) h.depth, h.comparisons, h.finish⟩ (by
          change 4 * p.advance.pending.length + 2 ≤ n
          omega)
      simp only [raise?_eq hdepth, Option.bind_eq_bind, Option.bind_some, hq,
        lower?_eq hkept.depth]
      refine ⟨_, _, rfl, ⟨rfl, hkept.finish, hkept.pending.trans (List.tail_suffix _),
        hkept.comparisons⟩, ?_, fun _ _ => stops_of_tight rfl _⟩
      cases hagrees with
      | ok count finished same =>
        refine .ok count ?_ (hread.trans same)
        rw [finished]
        simp [Layer.Finished, Reading.operandRead, Filter.negate]
      | error same count => exact .error (hread.trans same) count
  · rename_i hk
    exact (ih.primary h hk (by omega)).plain

/-- After the expression inside a parenthesis the parenthesis is closed, or the reading fails where
the function does. -/
theorem closed_agrees {opening : Span} {level : Level} {outer : List (Span × Level)}
    (hfinish : p.finish.kind = .eof) (ha : r.awaiting = .connective x)
    (ho : r.outer = (opening, level) :: outer) (hc : r.comparisons = p.comparisons)
    (hstops : Stops .disjunction p) :
    (p.closed opening (r.level.close x) = (.ok (r.level.close x), p.advance) ∧
      run p.finish r p.pending = run p.finish
        (Reading.operandRead { r with outer, level, depth := r.depth - 1 } (r.level.close x))
        p.advance.pending) ∨
    ∃ z, p.closed opening (r.level.close x) = (.error z, p) ∧ Agrees .primary r p (.error z) p := by
  have hcount : r.count p.current = r := by rw [Reading.count, ha]
  have hresult : r.result? = none := by rw [Reading.result?, ha, ho]
  have hstep (hk : p.current.kind ≠ .rightParen) : r.step? p.current = none :=
    Reading.step?_connective ha hstops.ne_and hstops.ne_or fun hclose => absurd hclose hk
  unfold closed
  split
  · rename_i hk
    exact .inl ⟨rfl, run_read hfinish (Reading.step_close ha hk ho)⟩
  · rename_i hk
    split
    · rename_i heof
      refine .inr ⟨_, rfl, .error ?_ hc⟩
      rw [run_refused hfinish (hstep hk) fun _ => hresult, hcount]
      simp [Reading.complaint, ha, ho, heof]
    · rename_i heof
      refine .inr ⟨_, rfl, agrees_fail hfinish (hstep hk) (fun _ => hresult) ?_
        (by rw [hcount, hc]) rfl⟩
      rw [hcount]
      unfold Reading.complaint
      split <;> simp_all

/-- After an expression that is in no parenthesis comes the end, or the reading fails where the
function does. -/
theorem ended_agrees (hfinish : p.finish.kind = .eof)
    (hpending : ∀ token ∈ p.pending, token.kind ≠ .eof) (ha : r.awaiting = .connective x)
    (ho : r.outer = []) (hstops : Stops .disjunction p) :
    ∃ y, p.ended (r.level.close x) = (y, p) ∧ run p.finish r p.pending = (y, r, p.pending) := by
  have hcount : r.count p.current = r := by rw [Reading.count, ha]
  have hfails (hk : p.current.kind ≠ .eof) :
      run p.finish r p.pending = (.error (r.complaint p.current), r, p.pending) := by
    have hstep := Reading.step?_connective ha hstops.ne_and hstops.ne_or fun _ => ho
    rw [run_refused hfinish hstep fun hnil => ?_, hcount]
    rw [current_eq_finish hnil] at hk
    exact absurd hfinish hk
  unfold ended
  split
  · rename_i hk
    have hnil : p.pending = [] := by
      refine List.eq_nil_iff_forall_not_mem.mpr fun token hm => ?_
      obtain ⟨first, rest, hp⟩ := List.exists_cons_of_ne_nil (List.ne_nil_of_mem hm)
      have hcurrent : p.current = first := by rw [current, hp]; rfl
      rw [hcurrent] at hk
      exact hpending first (by rw [hp]; exact List.mem_cons_self) hk
    refine ⟨_, rfl, ?_⟩
    rw [hnil, run, Reading.result?, ha, ho]
  · rename_i hk
    refine ⟨_, rfl, ?_⟩
    rw [hfails (by simp [hk])]
    simp [Reading.complaint, ha, ho, hk]
  · rename_i hend hclosing
    refine ⟨_, rfl, ?_⟩
    rw [hfails hend]
    unfold Reading.complaint
    split <;> simp_all

theorem primary_descends (ih : Descends n) (h : Abreast r p)
    (hnot : p.current.kind ≠ .keyword .not) (hn : 4 * p.pending.length + 1 ≤ n + 1) :
    Answers .primary r p (p.primary (n + 1)) := by
  rw [primary]
  split
  · rename_i hk
    split
    · rename_i hdeep
      refine answers_fail h (by simp [hk])
        (Reading.step?_deep h.operand (.inr hk) (by rwa [h.depth])) ?_
      simp [Reading.complaint, h.operand, hk]
    · rename_i hdeep
      have hdepth : p.depth < maxDepth := Nat.not_le.mp hdeep
      have hread := run_read h.finish
        (Reading.step_open h.operand hk (by rw [h.depth]; exact hdepth))
      have hlen := length_advance h.finish (by simp [hk])
      obtain ⟨inner, q, hq, hkept, hagrees, hstops⟩ := ih.expression .disjunction
        (p := ({ p with depth := p.depth + 1 } : Parser).advance)
        (r := { r with
          outer := (p.current.span, r.level) :: r.outer
          level := {}
          depth := r.depth + 1 })
        ⟨h.operand, congrArg (· + 1) h.depth, h.comparisons, h.finish⟩ rfl (by
          change 4 * p.advance.pending.length + 3 ≤ n
          omega)
      have hq : expression n 0 ({ p with depth := p.depth + 1 } : Parser).advance =
        some (inner, q) := hq
      have hkept' : Kept p { q with depth := p.depth } :=
        ⟨rfl, hkept.finish, hkept.pending.trans (List.tail_suffix _), hkept.comparisons⟩
      simp only [raise?_eq hdepth, Option.bind_eq_bind, Option.bind_some, hq,
        lower?_eq hkept.depth]
      cases hagrees with
      | error same count => exact answers_error hkept' (.error (hread.trans same) count)
      | @ok e _ m r' count finished same =>
        obtain ⟨level, y, _, hclose, hr'⟩ := finished
        have hfinish : q.finish.kind = .eof := by rw [hkept.finish]; exact h.finish
        have hcomparisons : r'.comparisons = q.comparisons := by
          rw [hr', count]
          exact congrArg (· + m) h.comparisons
        have hlevel : r'.level = level := by rw [hr']
        have hclosed := closed_agrees (p := { q with depth := p.depth }) (x := y) hfinish
          (by rw [hr']) (by rw [hr']) hcomparisons (hstops e rfl)
        rw [hlevel, hclose] at hclosed
        dsimp only
        rcases hclosed with ⟨hq', hrun⟩ | ⟨z, hq', hz⟩
        · rw [hq']
          rw [hkept.finish] at hrun
          refine ⟨_, _, rfl, hkept'.trans (kept_advance _), .ok count ?_
            (hread.trans (same.trans hrun)), fun _ _ => stops_of_tight rfl _⟩
          simp [Layer.Finished, Reading.operandRead, hr']
        · rw [hq']
          exact answers_error hkept' (hz.error_of_run hkept.finish (hread.trans same))
  · rename_i field hk
    obtain ⟨hkept, hagrees⟩ := comparison_agrees h hk
    exact ⟨_, _, rfl, hkept, hagrees, fun _ _ => stops_of_tight rfl _⟩
  · rename_i e hk
    refine answers_fail h (by simp [hk])
      (Reading.step?_operand h.operand hnot (by simp [hk]) (by simp [hk])) ?_
    simp [Reading.complaint, h.operand, hk]
  · rename_i hopen hfield herror
    refine answers_fail h hfield (Reading.step?_operand h.operand hnot hopen hfield) ?_
    unfold Reading.complaint
    split <;> simp_all [h.operand]

/-- The loop ends where the next token does not belong to the layer. -/
theorem chain_of_stops (h : Stops layer p) (hn : 0 < n) :
    p.chain n layer.least x = some (.ok x, p) := by
  obtain ⟨n, rfl⟩ := Nat.exists_eq_add_one.mpr hn
  rw [chain]
  split
  · rename_i lower upper op hb
    rw [if_pos (h lower upper op hb)]
  · rfl

/-- The operand on the right of an `and` is read, and it joins what comes before it. -/
theorem and_turn (ih : Descends n) (h : Following r x p) (hk : p.current.kind = .keyword .and)
    (hn : 4 * p.pending.length + 1 ≤ n + 1) :
    (∃ z q, p.advance.expression n 4 = some (.error z, q) ∧ Kept p q ∧
      ∀ layer, Agrees layer r p (.error z) q) ∨
    ∃ e q r', p.advance.expression n 4 = some (.ok e, q) ∧ Kept p q ∧ Following r' e q ∧
      q.pending.length < p.pending.length ∧
      run p.finish r p.pending = run p.finish r' q.pending ∧
      r' = { r with
        level := { r.level with conjunct := some (r.level.conjoin x) }
        awaiting := .connective e
        comparisons := q.comparisons } := by
  have hread := run_read h.finish (Reading.step_and h.operand hk)
  have hlen := length_advance h.finish (by simp [hk])
  obtain ⟨y, q, hq, hkept, hagrees, _⟩ := ih.expression .unary (p := p.advance)
    (r := { r with
      level := { r.level with conjunct := some (r.level.conjoin x) }
      awaiting := .operand })
    ⟨rfl, h.depth, h.comparisons, h.finish⟩ trivial (by omega)
  have hkept' := (kept_advance p).trans hkept
  have hshort := hkept.pending.length_le
  cases hagrees with
  | error same count => exact .inl ⟨_, q, hq, hkept', fun _ => .error (hread.trans same) count⟩
  | @ok e _ m r' count finished same =>
    have hr' : r' = { r with
        level := { r.level with conjunct := some (r.level.conjoin x) }
        awaiting := .connective e
        comparisons := q.comparisons } := by
      rw [finished, count]
      simp [Reading.operandRead, Filter.negate, h.negations, h.comparisons, advance]
    refine .inr ⟨e, q, r', hq, hkept', ?_, by omega, hread.trans same, hr'⟩
    rw [hr']
    exact ⟨rfl, h.negations, h.depth.trans hkept'.depth.symm, rfl, by rw [hkept'.finish, h.finish]⟩

/-- The conjunction on the right of an `or` is read, and it joins what comes before it. -/
theorem or_turn (ih : Descends n) (h : Following r x p) (hk : p.current.kind = .keyword .or)
    (hn : 4 * p.pending.length + 1 ≤ n + 1) :
    (∃ z q, p.advance.expression n 2 = some (.error z, q) ∧ Kept p q ∧
      ∀ layer, Agrees layer r p (.error z) q) ∨
    ∃ e q r' y, p.advance.expression n 2 = some (.ok e, q) ∧ Kept p q ∧ Following r' y q ∧
      q.pending.length < p.pending.length ∧ q.current.kind ≠ .keyword .and ∧
      run p.finish r p.pending = run p.finish r' q.pending ∧
      r'.level.close y = .logical .or (r.level.close x) e ∧
      r' = { r with
        level := r'.level
        awaiting := .connective y
        comparisons := q.comparisons } := by
  have hread := run_read h.finish (Reading.step_or h.operand hk)
  have hlen := length_advance h.finish (by simp [hk])
  obtain ⟨y, q, hq, hkept, hagrees, hstops⟩ := ih.expression .conjunction (p := p.advance)
    (r := { r with
      level := { disjunct := some (r.level.close x) }
      awaiting := .operand })
    ⟨rfl, h.depth, h.comparisons, h.finish⟩ ⟨rfl, rfl⟩ (by omega)
  have hkept' := (kept_advance p).trans hkept
  have hshort := hkept.pending.length_le
  cases hagrees with
  | error same count => exact .inl ⟨_, q, hq, hkept', fun _ => .error (hread.trans same) count⟩
  | @ok e _ m r' count finished same =>
    obtain ⟨conjunct, y, hy, hr'⟩ := finished
    have hcount : r'.comparisons = q.comparisons := by
      rw [hr', count]
      exact congrArg (· + m) h.comparisons
    refine .inr ⟨e, q, r', y, hq, hkept', ?_, by omega, ?_, hread.trans same, ?_, ?_⟩
    · refine ⟨by rw [hr'], by rw [hr'], ?_, hcount, by rw [hkept'.finish, h.finish]⟩
      rw [hr', hkept'.depth]
      exact h.depth
    · intro hand
      exact absurd (hstops e rfl 3 4 .and (by rw [hand]; rfl)) (by decide)
    · rw [hr', ← hy]
      rfl
    · rw [← hcount, hr']

theorem stops_conjunction (h : p.current.kind ≠ .keyword .and) : Stops .conjunction p := by
  intro lower upper op hb
  unfold binding? at hb
  split at hb
  · cases hb
    decide
  · rename_i hk
    exact absurd hk h
  · cases hb

theorem stops_disjunction (hand : p.current.kind ≠ .keyword .and)
    (hor : p.current.kind ≠ .keyword .or) : Stops .disjunction p := by
  intro lower upper op hb
  unfold binding? at hb
  split at hb
  · rename_i hk
    exact absurd hk hor
  · rename_i hk
    exact absurd hk hand
  · cases hb

/-- The loop over the operands of a conjunction. -/
theorem conjuncts_descends (ih : Descends n) (h : Following r x p)
    (hn : 4 * p.pending.length + 1 ≤ n + 1) :
    Answers .conjunction r p (p.chain (n + 1) 2 (r.level.conjoin x)) := by
  by_cases hk : p.current.kind = .keyword .and
  · rw [chain, hk]
    rcases and_turn ih h hk hn with
      ⟨z, q, hq, hkept, hagrees⟩ | ⟨e, q, r', hq, hkept, hr, hshort, same, hr'⟩
    · simp only [binding?, hq, Option.bind_eq_bind, Option.bind_some]
      exact answers_error hkept (hagrees _)
    · simp only [binding?, hq, Option.bind_eq_bind, Option.bind_some]
      obtain ⟨m, hm⟩ := Nat.exists_eq_add_of_le hkept.comparisons
      have hmore := ih.conjuncts hr (by omega)
      have hleft : r'.level.conjoin e = .logical .and (r.level.conjoin x) e := by
        rw [hr']
        rfl
      rw [hleft] at hmore
      refine hmore.after hkept same hm ?_
      rintro m' r'' e' ⟨conjunct, y, hy, hr''⟩
      refine ⟨conjunct, y, ?_, ?_⟩
      · rw [hr'] at hy
        exact hy
      · rw [hr'', hr', hm, ← h.comparisons, ← Nat.add_assoc]
  · have hstops := stops_conjunction hk
    have hchain := chain_of_stops (x := r.level.conjoin x) hstops (Nat.succ_pos n)
    change Answers _ _ _ (p.chain (n + 1) Layer.conjunction.least _)
    rw [hchain]
    refine answers_ok ⟨r.level.conjunct, x, rfl, ?_⟩ hstops
    rw [← h.operand]
    rfl

/-- A text of a disjunction that goes on from another one is a text of the whole. -/
theorem finished_disjunction {level : Level} {awaiting : Awaiting} {c : Nat}
    (hr' : r' = { r with level, awaiting, comparisons := c }) (hc : c = r.comparisons + m)
    {m' : Nat} {r'' : Reading} {e : Filter} (h : Layer.Finished r' m' r'' .disjunction e) :
    Layer.Finished r (m + m') r'' .disjunction e := by
  obtain ⟨level', y, hneg, hy, hr''⟩ := h
  refine ⟨level', y, hneg, hy, ?_⟩
  rw [hr'', hr', hc, ← Nat.add_assoc]

/-- The loop over the operands of a disjunction. Where it has seen an `or`, no `and` comes next: it
belongs to the operand on the right. -/
theorem disjuncts_descends (ih : Descends n) (h : Following r x p)
    (hside : r.level.disjunct = none ∨ p.current.kind ≠ .keyword .and)
    (hn : 4 * p.pending.length + 1 ≤ n + 1) :
    Answers .disjunction r p (p.chain (n + 1) 0 (r.level.close x)) := by
  by_cases hand : p.current.kind = .keyword .and
  · have hdisjunct := hside.resolve_right (not_not_intro hand)
    rw [chain, hand]
    rcases and_turn ih h hand hn with
      ⟨z, q, hq, hkept, hagrees⟩ | ⟨e, q, r', hq, hkept, hr, hshort, same, hr'⟩
    · simp only [binding?, hq, Option.bind_eq_bind, Option.bind_some]
      exact answers_error hkept (hagrees _)
    · simp only [binding?, hq, Option.bind_eq_bind, Option.bind_some]
      obtain ⟨m, hm⟩ := Nat.exists_eq_add_of_le hkept.comparisons
      have hnone : r'.level.disjunct = none := by
        rw [hr']
        exact hdisjunct
      have hmore := ih.disjuncts hr (.inl hnone) (by omega)
      have hleft : r'.level.close e = .logical .and (r.level.close x) e := by
        rw [Level.close, hnone, Level.close, hdisjunct, hr']
        rfl
      rw [hleft] at hmore
      refine hmore.after hkept same hm (finished_disjunction hr' ?_)
      rw [hm, h.comparisons]
  by_cases hor : p.current.kind = .keyword .or
  · rw [chain, hor]
    rcases or_turn ih h hor hn with
      ⟨z, q, hq, hkept, hagrees⟩ | ⟨e, q, r', y, hq, hkept, hr, hshort, hnext, same, hleft, hr'⟩
    · simp only [binding?, hq, Option.bind_eq_bind, Option.bind_some]
      exact answers_error hkept (hagrees _)
    · simp only [binding?, hq, Option.bind_eq_bind, Option.bind_some]
      obtain ⟨m, hm⟩ := Nat.exists_eq_add_of_le hkept.comparisons
      have hmore := ih.disjuncts hr (.inr hnext) (by omega)
      rw [hleft] at hmore
      refine hmore.after hkept same hm (finished_disjunction hr' ?_)
      rw [hm, h.comparisons]
  · have hstops := stops_disjunction hand hor
    have hchain := chain_of_stops (x := r.level.close x) hstops (Nat.succ_pos n)
    change Answers _ _ _ (p.chain (n + 1) Layer.disjunction.least _)
    rw [hchain]
    refine answers_ok ⟨r.level, x, h.negations, rfl, ?_⟩ hstops
    rw [← h.operand]
    rfl

theorem expression_descends (ih : Descends n) (layer : Layer) (h : Abreast r p)
    (hready : layer.Ready r.level) (hn : 4 * p.pending.length + 3 ≤ n + 1) :
    Answers layer r p (p.expression (n + 1) layer.least) := by
  obtain ⟨left, q, hq, hkept, hagrees, _⟩ := ih.unary h (by omega)
  rw [expression, hq]
  simp only [Option.bind_eq_bind, Option.bind_some]
  have hlen := hkept.pending.length_le
  cases hagrees with
  | error same count => exact answers_error hkept (.error same count)
  | @ok e _ m r' count finished same =>
    have hplain (hneg : r.level.negations = 0) :
        r' = { r with awaiting := .connective e, comparisons := q.comparisons } ∧
          Following r' e q := by
      have hr' : r' = { r with awaiting := .connective e, comparisons := q.comparisons } := by
        rw [finished, count, ← h.comparisons]
        exact Reading.operandRead_plain
          (r := { r with comparisons := r.comparisons + m }) hneg e
      rw [hr']
      exact ⟨rfl, rfl, hneg, h.depth.trans hkept.depth.symm, rfl, by rw [hkept.finish, h.finish]⟩
    cases layer with
    | disjunction =>
      obtain ⟨hr', hfollowing⟩ := hplain (by rw [hready])
      have hlevel : r'.level = {} := by rw [hr', hready]
      have hmore := ih.disjuncts hfollowing (.inl (by rw [hlevel])) (by omega)
      rw [hlevel] at hmore
      exact hmore.after hkept same count (finished_disjunction hr' (by rw [count, h.comparisons]))
    | conjunction =>
      obtain ⟨hr', hfollowing⟩ := hplain hready.2
      have hlevel : r'.level = r.level := by rw [hr']
      have hmore := ih.conjuncts hfollowing (by omega)
      have hleft : r'.level.conjoin e = e := by rw [hlevel, Level.conjoin, hready.1]
      rw [hleft] at hmore
      refine hmore.after hkept same count ?_
      rintro m' r'' e' ⟨conjunct, y, hy, hr''⟩
      rw [hlevel] at hy hr''
      refine ⟨conjunct, y, hy, ?_⟩
      rw [hr'', hr', count, ← h.comparisons, ← Nat.add_assoc]
    | unary | primary =>
      have hstops : Stops .unary q := stops_of_tight rfl q
      have hchain := chain_of_stops (x := e) hstops (show 0 < n by omega)
      exact ⟨_, _, hchain, hkept, .ok count finished same, fun _ _ => stops_of_tight rfl _⟩

/-- As many calls are enough as there are tokens, four times and a few more. -/
theorem descends (n : Nat) : Descends n := by
  induction n with
  | zero =>
    exact ⟨fun _ _ hn => absurd hn (by omega), fun _ hn => absurd hn (by omega),
      fun _ _ _ _ _ hn => absurd hn (by omega), fun _ hn => absurd hn (by omega),
      fun _ _ hn => absurd hn (by omega)⟩
  | succ n ih =>
    exact ⟨primary_descends ih, unary_descends ih, fun layer _ _ => expression_descends ih layer,
      conjuncts_descends ih, disjuncts_descends ih⟩

end Calls

end Parser

end RequestSql
