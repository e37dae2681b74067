import RequestSql.Proofs.Grammar

namespace RequestSql

namespace Reading

def step? (r : Reading) (t : Token) : Option Reading :=
  (r.count t).next? t

def steps? (r : Reading) : List Token → Option Reading
  | [] => some r
  | t :: rest => (r.step? t).bind (steps? · rest)

theorem steps_append (r : Reading) (ts us : List Token) :
    r.steps? (ts ++ us) = (r.steps? ts).bind (steps? · us) := by
  induction ts generalizing r with
  | nil => rfl
  | cons t ts ih =>
    simp only [List.cons_append, steps?]
    cases r.step? t with
    | none => rfl
    | some r' => exact ih r'

end Reading

/-- A run succeeds where the tokens lead to a reading at which the text may end. -/
theorem Parser.run_ok_iff (finish : Token) (r : Reading) (ts : List Token) (e : Filter) :
    (Parser.run finish r ts).1 = .ok e ↔ ∃ r', r.steps? ts = some r' ∧ r'.result? = some e := by
  induction ts generalizing r with
  | nil =>
    simp only [Parser.run, Reading.steps?, Option.some.injEq, exists_eq_left']
    cases r.result? <;> simp
  | cons t ts ih =>
    simp only [Parser.run, Reading.steps?, Reading.step?]
    cases (r.count t).next? t with
    | none => simp
    | some r' => exact ih r'

section Completeness

/-- What a layer of the grammar asks of the level at which its text begins. -/
def Layer.Ready : Layer → Level → Prop
  | .disjunction, l => l = {}
  | .conjunction, l => l.conjunct = none ∧ l.negations = 0
  | .unary, _ | .primary, _ => True

/-- The reading `r'` has read, after `r`, one text of a layer with `n` comparisons: joined to what
waits for it, the last operand is the filter of that text. -/
def Layer.Finished (r : Reading) (n : Nat) (r' : Reading) : Layer → Filter → Prop
  | .disjunction, e => ∃ level x, level.negations = 0 ∧ level.close x = e ∧
      r' = { r with level, awaiting := .connective x, comparisons := r.comparisons + n }
  | .conjunction, e => ∃ conjunct x, ({ r.level with conjunct } : Level).conjoin x = e ∧
      r' = { r with
        level := { r.level with conjunct }
        awaiting := .connective x
        comparisons := r.comparisons + n }
  | .unary, e | .primary, e =>
      r' = ({ r with comparisons := r.comparisons + n } : Reading).operandRead e

namespace Reading

variable {r : Reading} {t : Token}

theorem step_not (ha : r.awaiting = .operand) (hk : t.kind = .keyword .not)
    (hd : r.depth < maxDepth) :
    r.step? t = some { r with
      level := { r.level with negations := r.level.negations + 1 }
      depth := r.depth + 1 } := by
  simp [step?, count, next?, ha, hk, hd]

theorem step_open (ha : r.awaiting = .operand) (hk : t.kind = .leftParen)
    (hd : r.depth < maxDepth) :
    r.step? t = some { r with
      outer := (t.span, r.level) :: r.outer
      level := {}
      depth := r.depth + 1 } := by
  simp [step?, count, next?, ha, hk, hd]

theorem step_and {e : Filter} (ha : r.awaiting = .connective e) (hk : t.kind = .keyword .and) :
    r.step? t = some { r with
      level := { r.level with conjunct := some (r.level.conjoin e) }
      awaiting := .operand } := by
  simp [step?, count, next?, ha, hk]

theorem step_or {e : Filter} (ha : r.awaiting = .connective e) (hk : t.kind = .keyword .or) :
    r.step? t = some { r with
      level := { disjunct := some (r.level.close e) }
      awaiting := .operand } := by
  simp [step?, count, next?, ha, hk]

theorem step_close {e : Filter} {opening : Span} {level : Level} {outer : List (Span × Level)}
    (ha : r.awaiting = .connective e) (hk : t.kind = .rightParen)
    (ho : r.outer = (opening, level) :: outer) :
    r.step? t =
      some (operandRead { r with outer, level, depth := r.depth - 1 } (r.level.close e)) := by
  simp [step?, count, next?, ha, hk, ho]

theorem steps_comparison {a b c : Token} {field : Text} {k : Keyword} {op : CompareOp}
    {value : Value} (ha : r.awaiting = .operand) (hn : r.comparisons + 1 ≤ maxComparisons)
    (h₁ : a.kind = .identifier field) (h₂ : b.kind = .keyword k)
    (operator : CompareOp.ofKeyword? k = some op) (literal : c.kind.literal? = some value) :
    r.steps? [a, b, c] =
      some (({ r with comparisons := r.comparisons + 1 } : Reading).operandRead
        (.comparison field op value)) := by
  simp [steps?, step?, count, next?, ha, h₁, h₂, hn, operator, literal, operandRead]

end Reading

/-- The kinds of tokens that are split as a text, one more token and another text. -/
theorem map_kind_split {ts : List Token} {v w : List TokenKind} {k : TokenKind}
    (h : ts.map Token.kind = v ++ k :: w) :
    ∃ us t vs, ts = us ++ t :: vs ∧ us.map Token.kind = v ∧ t.kind = k ∧
      vs.map Token.kind = w := by
  obtain ⟨us, rest, rfl, hv, hrest⟩ := List.map_eq_append_iff.mp h
  obtain ⟨t, vs, rfl, ht, hw⟩ := List.map_eq_cons_iff.mp hrest
  exact ⟨us, t, vs, rfl, hv, ht, hw⟩

/-- Without negations in front of it an operand only waits for a connective. -/
theorem Reading.operandRead_plain {r : Reading} (h : r.level.negations = 0) (e : Filter) :
    r.operandRead e = { r with awaiting := .connective e } := by
  obtain ⟨outer, ⟨disjunct, conjunct, negations⟩, awaiting, depth, comparisons⟩ := r
  obtain rfl : negations = 0 := h
  rfl

/-- A reading that awaits an operand reads every text that the grammar derives, as long as the
depth and the number of comparisons stay within their limits. -/
theorem Derives.complete {layer : Layer} {w : List TokenKind} {e : Filter} {d n : Nat}
    (h : Derives layer w e d n) {r : Reading} {ts : List Token} (ha : r.awaiting = .operand)
    (hl : layer.Ready r.level) (hd : r.depth + d ≤ maxDepth)
    (hn : r.comparisons + n ≤ maxComparisons) (hw : ts.map Token.kind = w) :
    ∃ r', r.steps? ts = some r' ∧ layer.Finished r n r' e := by
  -- The reading before the text is general, since a right operand begins in the middle of a level.
  induction h generalizing r ts with
  | single _ ih =>
    have hl : r.level = {} := hl
    obtain ⟨r', hs, conjunct, x, he, hr⟩ := ih ha ⟨by rw [hl], by rw [hl]⟩ hd hn hw
    rw [hl] at he hr
    exact ⟨r', hs, { conjunct }, x, rfl, he, hr⟩
  | @or v w l _ c d m n _ _ ihl ihr =>
    obtain ⟨us, t, vs, rfl, hv, ht, hw⟩ := map_kind_split hw
    obtain ⟨_, hs, level, x, _, hx, rfl⟩ := ihl ha hl (by omega) (by omega) hv
    have hor := Reading.step_or (r := { r with
      level, awaiting := .connective x, comparisons := r.comparisons + m }) rfl ht
    rw [hx] at hor
    obtain ⟨r', hs', conjunct, y, hy, hr⟩ := ihr (r := { r with
      level := { disjunct := some l }, awaiting := .operand, comparisons := r.comparisons + m })
      rfl ⟨rfl, rfl⟩ (show r.depth + d ≤ maxDepth by omega)
      (show r.comparisons + m + n ≤ maxComparisons by omega) hw
    refine ⟨r', ?_, { disjunct := some l, conjunct }, y, rfl, ?_, ?_⟩
    · rw [Reading.steps_append, hs, Option.bind_some, Reading.steps?, hor, Option.bind_some, hs']
    · rw [← hy]
      rfl
    · rw [hr, Nat.add_assoc]
  | @operand _ e _ n _ ih =>
    obtain ⟨hc, hneg⟩ := hl
    obtain ⟨_, hs, rfl⟩ := ih ha trivial hd hn hw
    refine ⟨_, hs, none, e, rfl, ?_⟩
    rw [← hc]
    apply Reading.operandRead_plain
    exact hneg
  | @and v w l e c d m n _ _ ihl ihr =>
    obtain ⟨hc, hneg⟩ := hl
    obtain ⟨us, t, vs, rfl, hv, ht, hw⟩ := map_kind_split hw
    obtain ⟨_, hs, conjunct, x, hx, rfl⟩ := ihl ha ⟨hc, hneg⟩ (by omega) (by omega) hv
    have hand := Reading.step_and (r := { r with
      level := { r.level with conjunct }
      awaiting := .connective x
      comparisons := r.comparisons + m }) rfl ht
    rw [hx] at hand
    obtain ⟨r', hs', hr⟩ := ihr (r := { r with
      level := { r.level with conjunct := some l }
      awaiting := .operand
      comparisons := r.comparisons + m }) rfl trivial (show r.depth + d ≤ maxDepth by omega)
      (show r.comparisons + m + n ≤ maxComparisons by omega) hw
    refine ⟨r', ?_, some l, e, rfl, ?_⟩
    · rw [Reading.steps_append, hs, Option.bind_some, Reading.steps?, hand, Option.bind_some, hs']
    · rw [hr, ← Nat.add_assoc]
      apply Reading.operandRead_plain
      exact hneg
  | plain _ ih => exact ih ha hl hd hn hw
  | @not w e d n _ ih =>
    obtain ⟨t, vs, rfl, ht, hw⟩ := List.map_eq_cons_iff.mp hw
    have hnot := Reading.step_not ha ht (by omega)
    obtain ⟨_, hs, rfl⟩ := ih (r := { r with
      level := { r.level with negations := r.level.negations + 1 }
      depth := r.depth + 1 }) ha trivial (show r.depth + 1 + d ≤ maxDepth by omega) hn hw
    refine ⟨_, ?_, rfl⟩
    rw [Reading.steps?, hnot, Option.bind_some, hs]
    simp [Reading.operandRead, Filter.negate]
  | @parentheses w e d n _ ih =>
    obtain ⟨t, rest, rfl, ht, hrest⟩ := List.map_eq_cons_iff.mp hw
    obtain ⟨us, z, _, rfl, hus, hz, hnil⟩ := map_kind_split hrest
    obtain rfl := List.map_eq_nil_iff.mp hnil
    have hopen := Reading.step_open ha ht (by omega)
    obtain ⟨_, hs, level, x, _, hx, rfl⟩ := ih (r := { r with
      outer := (t.span, r.level) :: r.outer
      level := {}
      depth := r.depth + 1 }) ha rfl (show r.depth + 1 + d ≤ maxDepth by omega) hn hus
    refine ⟨_, ?_, rfl⟩
    rw [Reading.steps?, hopen, Option.bind_some, Reading.steps_append, hs, Option.bind_some,
      Reading.steps?, Reading.step_close rfl hz rfl, Option.bind_some, Reading.steps?, hx]
    rfl
  | comparison operator literal =>
    obtain ⟨a, rest, rfl, h₁, hrest⟩ := List.map_eq_cons_iff.mp hw
    obtain ⟨b, rest, rfl, h₂, hrest⟩ := List.map_eq_cons_iff.mp hrest
    obtain ⟨c, rest, rfl, h₃, hnil⟩ := List.map_eq_cons_iff.mp hrest
    obtain rfl := List.map_eq_nil_iff.mp hnil
    have hliteral := literal_iff.mpr literal
    rw [← h₃] at hliteral
    exact ⟨_, Reading.steps_comparison ha hn h₁ h₂ (operator_iff.mpr operator) hliteral, rfl⟩

end Completeness

section Soundness

inductive Reading.Step (r : Reading) (t : Token) : Reading → Prop where
  | not (ha : r.awaiting = .operand) (hk : t.kind = .keyword .not) (hd : r.depth < maxDepth) :
      Step r t { r with
        level := { r.level with negations := r.level.negations + 1 }
        depth := r.depth + 1 }
  | opening (ha : r.awaiting = .operand) (hk : t.kind = .leftParen) (hd : r.depth < maxDepth) :
      Step r t { r with
        outer := (t.span, r.level) :: r.outer
        level := {}
        depth := r.depth + 1 }
  | field {name : Text} (ha : r.awaiting = .operand) (hk : t.kind = .identifier name)
      (hn : r.comparisons + 1 ≤ maxComparisons) :
      Step r t { r with awaiting := .operator name, comparisons := r.comparisons + 1 }
  | operator {field : Text} {k : Keyword} {op : CompareOp} (ha : r.awaiting = .operator field)
      (hk : t.kind = .keyword k) (ho : CompareOp.ofKeyword? k = some op) :
      Step r t { r with awaiting := .literal field op }
  | literal {field : Text} {op : CompareOp} {value : Value} (ha : r.awaiting = .literal field op)
      (hv : t.kind.literal? = some value) :
      Step r t (r.operandRead (.comparison field op value))
  | and {e : Filter} (ha : r.awaiting = .connective e) (hk : t.kind = .keyword .and) :
      Step r t { r with
        level := { r.level with conjunct := some (r.level.conjoin e) }
        awaiting := .operand }
  | or {e : Filter} (ha : r.awaiting = .connective e) (hk : t.kind = .keyword .or) :
      Step r t { r with
        level := { disjunct := some (r.level.close e) }
        awaiting := .operand }
  | closing {e : Filter} {opening : Span} {level : Level} {outer : List (Span × Level)}
      (ha : r.awaiting = .connective e) (hk : t.kind = .rightParen)
      (ho : r.outer = (opening, level) :: outer) :
      Step r t (Reading.operandRead { r with outer, level, depth := r.depth - 1 }
        (r.level.close e))

theorem Reading.step_cases {r r' : Reading} {t : Token} (h : r.step? t = some r') :
    r.Step t r' := by
  obtain ⟨outer, level, awaiting, depth, comparisons⟩ := r
  obtain ⟨kind, span⟩ := t
  cases awaiting with
  | operand =>
    cases kind with
    | identifier name =>
      obtain ⟨hn, ⟨⟩⟩ := Option.ite_none_right_eq_some.mp h
      exact .field rfl rfl hn
    | keyword k =>
      cases k with
      | not =>
        obtain ⟨hd, ⟨⟩⟩ := Option.ite_none_right_eq_some.mp h
        exact .not rfl rfl hd
      | _ => cases h
    | leftParen =>
      obtain ⟨hd, ⟨⟩⟩ := Option.ite_none_right_eq_some.mp h
      exact .opening rfl rfl hd
    | _ => cases h
  | operator field =>
    cases kind with
    | keyword k =>
      obtain ⟨op, ho, rfl⟩ := Option.map_eq_some_iff.mp h
      exact .operator rfl rfl ho
    | _ => cases h
  | literal field op =>
    obtain ⟨value, hv, rfl⟩ := Option.map_eq_some_iff.mp h
    exact .literal rfl hv
  | connective e =>
    cases kind with
    | keyword k =>
      cases k with
      | and => cases h; exact .and rfl rfl
      | or => cases h; exact .or rfl rfl
      | _ => cases h
    | rightParen =>
      cases outer with
      | nil => cases h
      | cons entry outer => cases h; exact .closing rfl rfl rfl
    | _ => cases h

/-- The text of an operand that waits for its right-hand side, with the connective after it.
Without such an operand there is no text. `base` is the depth around it. -/
inductive Waits (layer : Layer) (k : Keyword) (base : Nat) :
    Option Filter → List TokenKind → Nat → Prop where
  | nothing : Waits layer k base none [] 0
  | operand {w e d n} (derived : Derives layer w e d n) (within : base + d ≤ maxDepth) :
      Waits layer k base (some e) (w ++ [.keyword k]) n

inductive Level.Holds (base : Nat) (l : Level) : List TokenKind → Nat → Prop where
  | parts {u v m n} (disjunct : Waits .disjunction .or base l.disjunct u m)
      (conjunct : Waits .conjunction .and base l.conjunct v n) :
      Holds base l (u ++ v ++ List.replicate l.negations (.keyword .not)) (m + n)

/-- The text up to the innermost open parenthesis, and the depth inside it. -/
inductive Opened : List (Span × Level) → Nat → List TokenKind → Nat → Prop where
  | nothing : Opened [] 0 [] 0
  | parenthesis {outer base v m span l w n} (around : Opened outer base v m)
      (level : l.Holds base w n) :
      Opened ((span, l) :: outer) (base + l.negations + 1) (v ++ w ++ [.leftParen]) (m + n)

inductive Awaits (base : Nat) : Awaiting → Nat → List TokenKind → Nat → Prop where
  | operand {k} : Awaits base .operand k [] 0
  | operator {field k} : Awaits base (.operator field) k [.identifier field] 1
  | literal {field keyword op k} (operator : CompareOp.ofKeyword? keyword = some op) :
      Awaits base (.literal field op) k [.identifier field, .keyword keyword] 1
  | connective {w e d n} (derived : Derives .unary w e d n) (within : base + d ≤ maxDepth) :
      Awaits base (.connective e) 0 w n

/-- A reading stands for the kinds of the tokens that led to it, its counters are right and
neither is past its limit. -/
inductive Reading.Holds (r : Reading) : List TokenKind → Prop where
  | parts {base u v x l m n} (outer : Opened r.outer base u l) (level : r.level.Holds base v m)
      (operand : Awaits base r.awaiting r.level.negations x n)
      (depth : r.depth = base + r.level.negations) (depth_le : r.depth ≤ maxDepth)
      (comparisons : r.comparisons = l + m + n)
      (comparisons_le : r.comparisons ≤ maxComparisons) : Holds r (u ++ v ++ x)

theorem Awaits.of_connective {base k n : Nat} {e : Filter} {x : List TokenKind}
    (h : Awaits base (.connective e) k x n) :
    k = 0 ∧ ∃ d, Derives .unary x e d n ∧ base + d ≤ maxDepth := by
  cases h with
  | connective derived within => exact ⟨rfl, _, derived, within⟩

section Joining

variable {base j m n d : Nat} {l : Level} {u v w x : List TokenKind} {e : Filter}

theorem Waits.conjoin (h : Waits .conjunction .and base l.conjunct v m)
    (he : Derives .unary x e d n) (hd : base + d ≤ maxDepth) :
    ∃ c, Derives .conjunction (v ++ x) (l.conjoin e) c (m + n) ∧ base + c ≤ maxDepth := by
  obtain ⟨disjunct, conjunct, negations⟩ := l
  cases h with
  | nothing =>
    rw [Nat.zero_add]
    exact ⟨d, he.operand, hd⟩
  | operand derived within =>
    rw [List.append_assoc]
    exact ⟨_, derived.and he, by omega⟩

theorem Waits.close (h : Waits .disjunction .or base l.disjunct u j)
    (he : Derives .conjunction x (l.conjoin e) d n) (hd : base + d ≤ maxDepth) :
    ∃ c, Derives .disjunction (u ++ x) (l.close e) c (j + n) ∧ base + c ≤ maxDepth := by
  obtain ⟨disjunct, conjunct, negations⟩ := l
  cases h with
  | nothing =>
    rw [Nat.zero_add]
    exact ⟨d, he.single, hd⟩
  | operand derived within =>
    rw [List.append_assoc]
    exact ⟨_, derived.or he, by omega⟩

/-- Once its last operand is complete, the text of a level is a disjunction. -/
theorem Level.Holds.close (h : l.Holds base w m) (hneg : l.negations = 0)
    (he : Derives .unary x e d n) (hd : base + d ≤ maxDepth) :
    ∃ c, Derives .disjunction (w ++ x) (l.close e) c (m + n) ∧ base + c ≤ maxDepth := by
  obtain ⟨disjunct, conjunct⟩ := h
  obtain ⟨c, hc, hcd⟩ := conjunct.conjoin he hd
  rw [hneg, List.replicate_zero, List.append_nil, List.append_assoc, Nat.add_assoc]
  exact disjunct.close hc hcd

end Joining

/-- An operand that is complete closes the negations in front of it. -/
theorem Reading.Holds.operandRead {r : Reading} {base l m n d : Nat} {u v x : List TokenKind}
    {e : Filter} (outer : Opened r.outer base u l) (level : r.level.Holds base v m)
    (he : Derives .primary x e d n) (depth : r.depth = base + r.level.negations)
    (within : r.depth + d ≤ maxDepth) (comparisons : r.comparisons = l + m + n)
    (hn : r.comparisons ≤ maxComparisons) : (r.operandRead e).Holds (u ++ v ++ x) := by
  obtain ⟨disjunct, conjunct⟩ := level
  rename_i a b _ _
  -- The pending negations pass from the text of the level to that of the operand.
  have hx : u ++ (a ++ b ++ List.replicate r.level.negations (.keyword .not)) ++ x =
      u ++ (a ++ b ++ List.replicate 0 (.keyword .not)) ++
        (List.replicate r.level.negations (.keyword .not) ++ x) := by
    simp only [List.append_assoc, List.replicate_zero, List.nil_append]
  rw [hx]
  refine .parts outer ⟨disjunct, conjunct⟩
    (.connective (he.plain.negations r.level.negations) (by omega)) ?_ ?_ comparisons hn
  · change r.depth - r.level.negations = base + 0
    omega
  · change r.depth - r.level.negations ≤ maxDepth
    omega

/-- Each step of the parser adds its token to the text that the reading stands for. -/
theorem Reading.Holds.step {r r' : Reading} {t : Token} {w : List TokenKind} (h : r.Holds w)
    (hs : r.Step t r') : r'.Holds (w ++ [t.kind]) := by
  obtain ⟨opened, level, operand, depth, depth_le, comparisons, hn⟩ := h
  rename_i base u v x l m n
  cases hs with
  | not ha hk hd =>
    rw [ha] at operand
    obtain ⟨⟩ := operand
    obtain ⟨disjunct, conjunct⟩ := level
    rename_i a b _ _
    have hx : u ++ (a ++ b ++ List.replicate r.level.negations (.keyword .not)) ++ [] ++ [t.kind] =
        u ++ (a ++ b ++ List.replicate (r.level.negations + 1) (.keyword .not)) ++ [] := by
      rw [hk, List.replicate_succ']
      simp only [List.append_assoc, List.append_nil]
    rw [hx]
    refine .parts opened ⟨disjunct, conjunct⟩ ?_ ?_ hd comparisons hn
    · rw [ha]
      exact .operand
    · rw [depth, Nat.add_assoc]
  | opening ha hk hd =>
    rw [ha] at operand
    obtain ⟨⟩ := operand
    have hx : u ++ v ++ [] ++ [t.kind] =
        u ++ v ++ [.leftParen] ++ ([] ++ [] ++ List.replicate 0 (.keyword .not)) ++ [] := by
      rw [hk]
      simp only [List.append_assoc, List.replicate_zero, List.append_nil]
    rw [hx]
    refine .parts (.parenthesis opened level) ⟨.nothing, .nothing⟩ ?_ ?_ hd comparisons hn
    · rw [ha]
      exact .operand
    · rw [depth]
      rfl
  | field ha hk hc =>
    rw [ha] at operand
    obtain ⟨⟩ := operand
    rw [hk, List.append_nil]
    exact .parts opened level .operator depth depth_le (by rw [comparisons]) hc
  | operator ha hk ho =>
    rw [ha] at operand
    obtain ⟨⟩ := operand
    rw [hk, List.append_assoc]
    exact .parts opened level (.literal ho) depth depth_le comparisons hn
  | literal ha hv =>
    rw [ha] at operand
    obtain ⟨⟩ := operand
    rename_i ho
    rw [List.append_assoc]
    exact .operandRead opened level (.comparison (operator_iff.mp ho) (literal_iff.mp hv)) depth
      depth_le comparisons hn
  | and ha hk =>
    rw [ha] at operand
    obtain ⟨hneg, d, he, hd⟩ := operand.of_connective
    obtain ⟨disjunct, conjunct⟩ := level
    rename_i a b _ _
    obtain ⟨c, hc, hcd⟩ := conjunct.conjoin he hd
    have hx : u ++ (a ++ b ++ List.replicate r.level.negations (.keyword .not)) ++ x ++ [t.kind] =
        u ++ (a ++ (b ++ x ++ [.keyword .and]) ++
          List.replicate r.level.negations (.keyword .not)) ++ [] := by
      rw [hk, hneg]
      simp only [List.append_assoc, List.replicate_zero, List.append_nil]
    rw [hx]
    exact .parts opened ⟨disjunct, .operand hc hcd⟩ .operand depth depth_le
      (by rw [comparisons]; omega) hn
  | or ha hk =>
    rw [ha] at operand
    obtain ⟨hneg, d, he, hd⟩ := operand.of_connective
    obtain ⟨c, hc, hcd⟩ := level.close hneg he hd
    have hx : u ++ v ++ x ++ [t.kind] =
        u ++ (v ++ x ++ [.keyword .or] ++ [] ++ List.replicate 0 (.keyword .not)) ++ [] := by
      rw [hk]
      simp only [List.append_assoc, List.replicate_zero, List.append_nil]
    rw [hx]
    exact .parts opened ⟨.operand hc hcd, .nothing⟩ .operand (by rw [depth, hneg]) depth_le
      (by rw [comparisons]; omega) hn
  | @closing _ _ inner outer ha hk ho =>
    rw [ha] at operand
    obtain ⟨hneg, d, he, hd⟩ := operand.of_connective
    obtain ⟨c, hc, hcd⟩ := level.close hneg he hd
    rw [ho] at opened
    cases opened with
    | @parenthesis _ base v' _ _ _ w' _ around saved =>
      have hx : v' ++ w' ++ [.leftParen] ++ v ++ x ++ [t.kind] =
          v' ++ w' ++ (.leftParen :: (v ++ x) ++ [.rightParen]) := by
        rw [hk]
        simp only [List.append_assoc, List.cons_append, List.nil_append]
      rw [hx]
      refine operandRead (r := { r with outer, level := inner, depth := r.depth - 1 }) around saved
        hc.parentheses (show r.depth - 1 = base + inner.negations by omega)
        (show r.depth - 1 + (c + 1) ≤ maxDepth by omega) ?_ hn
      rw [comparisons, Nat.add_assoc]

theorem Reading.Holds.steps {r r' : Reading} {ts : List Token} {w : List TokenKind}
    (h : r.Holds w) (hs : r.steps? ts = some r') : r'.Holds (w ++ ts.map Token.kind) := by
  induction ts generalizing r w with
  | nil =>
    cases hs
    rw [List.map_nil, List.append_nil]
    exact h
  | cons t ts ih =>
    obtain ⟨r₁, h₁, hs⟩ := Option.bind_eq_some_iff.mp hs
    rw [List.map_cons, List.append_cons]
    exact ih (h.step (step_cases h₁)) hs

theorem Reading.holds_start : ({} : Reading).Holds [] := by
  have level : ({} : Level).Holds 0 [] 0 :=
    Level.Holds.parts (l := {}) (u := []) (v := []) .nothing .nothing
  exact Reading.Holds.parts (r := {}) (u := []) (x := []) .nothing level .operand rfl
    (Nat.zero_le _) rfl (Nat.zero_le _)

/-- A reading at which the text may end stands for a text that the grammar derives. -/
theorem Reading.Holds.spells {r : Reading} {w : List TokenKind} {e : Filter} (h : r.Holds w)
    (he : r.result? = some e) : Spells w e := by
  obtain ⟨outer, level, operand, depth, depth_le, comparisons, hn⟩ := h
  rename_i base u v x l m n
  simp only [Reading.result?] at he
  split at he
  · rename_i e₀ ha ho
    rw [ha] at operand
    obtain ⟨hneg, d, hx, hd⟩ := operand.of_connective
    obtain ⟨c, hc, hcd⟩ := level.close hneg hx hd
    rw [ho] at outer
    cases outer
    cases he
    have hdepth : c ≤ maxDepth := by omega
    have hcount : m + n ≤ maxComparisons := by omega
    exact ⟨c, m + n, hc, hdepth, hcount⟩
  · cases he

end Soundness

/-- A run from the start accepts exactly the texts that the grammar derives within the limits. -/
theorem run_start_iff (finish : Token) (ts : List Token) (e : Filter) :
    (Parser.run finish {} ts).1 = .ok e ↔ Spells (ts.map Token.kind) e := by
  rw [Parser.run_ok_iff]
  constructor
  · rintro ⟨r, hs, he⟩
    have hr := Reading.holds_start.steps hs
    rw [List.nil_append] at hr
    exact hr.spells he
  · rintro ⟨d, n, h, hd, hn⟩
    have hdepth : 0 + d ≤ maxDepth := by rwa [Nat.zero_add]
    have hcount : 0 + n ≤ maxComparisons := by rwa [Nat.zero_add]
    obtain ⟨r, hs, level, x, _, hx, hr⟩ := h.complete (r := {}) rfl rfl hdepth hcount rfl
    refine ⟨r, hs, ?_⟩
    rw [hr, ← hx]
    rfl

theorem Filter.parse_eq_ok (t : Text) (e : Filter) :
    Filter.parse t = .ok e ↔ Spells ((Lexer.tokens t).map Token.kind) e :=
  run_start_iff (Lexer.endToken t) (Lexer.tokens t) e

/-- The filter that a text spells is the one that the grammar derives from its tokens, within the
limits on depth and comparisons; a text has at most one. -/
theorem parse_ok_iff_spells (t : Text) :
    (∀ e, Filter.parse t = .ok e ↔
      ∃ w, (Lexer.tokenize t).map Token.kind = w ++ [.eof] ∧ Spells w e) ∧
    ∀ w e e', (Lexer.tokenize t).map Token.kind = w ++ [.eof] → Spells w e → Spells w e' →
      e = e' := by
  have hkinds : (Lexer.tokenize t).map Token.kind =
      (Lexer.tokens t).map Token.kind ++ [.eof] := by
    rw [Lexer.tokenize, List.map_append]
    rfl
  constructor
  · intro e
    rw [Filter.parse_eq_ok, hkinds]
    constructor
    · intro h
      exact ⟨_, rfl, h⟩
    · rintro ⟨w, hw, h⟩
      rwa [List.append_cancel_right hw]
  · intro w e e' hw h h'
    rw [hkinds] at hw
    obtain rfl := List.append_cancel_right hw
    have hee := ((Filter.parse_eq_ok t e).mpr h).symm.trans ((Filter.parse_eq_ok t e').mpr h')
    exact Except.ok.inj hee

/-- A negation takes the comparison after it, `and` binds before `or`, and no other filter is
derived. -/
theorem parse_ok_iff_spells_precedence :
    ∃ w, (Lexer.tokenize "a eq 1 or not b gt 'x' and c ne null".toList).map Token.kind =
        w ++ [.eof] ∧
      ∀ e, Spells w e ↔ e = .logical .or (.comparison "a".toList .eq (.int 1))
        (.logical .and (.not (.comparison "b".toList .gt (.text "x".toList)))
          (.comparison "c".toList .ne .null)) := by
  have h : Filter.parse "a eq 1 or not b gt 'x' and c ne null".toList = .ok
      (.logical .or (.comparison "a".toList .eq (.int 1))
        (.logical .and (.not (.comparison "b".toList .gt (.text "x".toList)))
          (.comparison "c".toList .ne .null))) := by rfl
  obtain ⟨w, hw, hs⟩ := ((parse_ok_iff_spells _).1 _).mp h
  refine ⟨w, hw, fun e => ⟨fun he => ?_, ?_⟩⟩
  · exact (parse_ok_iff_spells _).2 w _ _ hw he hs
  · rintro rfl
    exact hs

end RequestSql
