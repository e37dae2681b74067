import RequestSql.Proofs.Recognition
import RequestSql.Proofs.Tiling
import RequestSql.Proofs.Unambiguity

namespace RequestSql

def Complete (w : List TokenKind) : Prop :=
  ∃ e d n, Derives .disjunction w e d n

/-- Kinds of tokens that a text of the grammar begins with. -/
def Viable (w : List TokenKind) : Prop :=
  ∃ u, Complete (w ++ u)

inductive Balanced : List TokenKind → Prop where
  | nil : Balanced []
  | token {kind} (opening : kind ≠ .leftParen) (closing : kind ≠ .rightParen) : Balanced [kind]
  | nested {w} (inner : Balanced w) : Balanced (.leftParen :: w ++ [.rightParen])
  | append {v w} (left : Balanced v) (right : Balanced w) : Balanced (v ++ w)

section Completion

variable {base m n d : Nat} {l : Level} {u w x : List TokenKind} {e : Filter}

/-- A primary completes the text of a level, whatever negations are pending. -/
theorem Level.Holds.complete (h : l.Holds base w m) (he : Derives .primary x e d n)
    (hd : base + l.negations + d ≤ maxDepth) :
    ∃ e c k, Derives .disjunction (w ++ x) e c k ∧ base + c ≤ maxDepth := by
  obtain ⟨disjunct, conjunct⟩ := h
  have hunary := he.plain.negations l.negations
  obtain ⟨c, hc, hcd⟩ := conjunct.conjoin hunary (by omega)
  obtain ⟨c, hc, hcd⟩ := disjunct.close hc hcd
  simp only [List.append_assoc] at hc ⊢
  exact ⟨_, c, _, hc, hcd⟩

/-- Once what is inside the innermost parenthesis is complete, closing parentheses complete the
text. -/
theorem Opened.complete {outer : List (Span × Level)} (h : Opened outer base u m)
    (he : Derives .disjunction x e d n) (hd : base + d ≤ maxDepth) : Viable (u ++ x) := by
  induction h generalizing x e d n with
  | nothing => exact ⟨[], e, d, n, by rwa [List.append_nil]⟩
  | @parenthesis outer base v _ _ l w _ around level ih =>
    obtain ⟨e', c, k, hc, hcd⟩ := level.complete he.parentheses (by omega)
    obtain ⟨u, hu⟩ := ih hc hcd
    refine ⟨.rightParen :: u, ?_⟩
    simpa only [List.append_assoc, List.cons_append, List.nil_append] using hu

/-- The operand that is being read can be completed: the level around it is then a disjunction. -/
theorem Awaits.complete {awaiting : Awaiting} (h : Awaits base awaiting l.negations x n)
    (level : l.Holds base w m) (hd : base + l.negations ≤ maxDepth) :
    ∃ y e c k, Derives .disjunction (w ++ (x ++ y)) e c k ∧ base + c ≤ maxDepth := by
  -- any comparison will do
  have hcomparison (field : Text) {k : Keyword} {op : CompareOp} (ho : Operator k op) :
      ∃ e c j, Derives .disjunction (w ++ [.identifier field, .keyword k, .keyword .null]) e c j ∧
        base + c ≤ maxDepth :=
    level.complete (.comparison ho .null) hd
  generalize hk : l.negations = k at h
  cases h with
  | operand => exact ⟨_, hcomparison ['x'] .eq⟩
  | @operator field => exact ⟨[.keyword .eq, .keyword .null], hcomparison field .eq⟩
  | @literal field keyword op _ operator =>
    exact ⟨[.keyword .null], hcomparison field (operator_iff.mp operator)⟩
  | connective derived within =>
    obtain ⟨c, hc, hcd⟩ := level.close hk derived within
    exact ⟨[], _, c, _, by rwa [List.append_nil], hcd⟩

/-- What has been read begins a text of the grammar. -/
theorem Reading.Holds.viable {r : Reading} (h : r.Holds w) : Viable w := by
  obtain ⟨outer, level, operand, depth, depth_le, _, _⟩ := h
  obtain ⟨y, e, c, k, hc, hcd⟩ := operand.complete level (by omega)
  obtain ⟨z, hz⟩ := outer.complete hc hcd
  refine ⟨y ++ z, ?_⟩
  simpa only [List.append_assoc] using hz

end Completion

section Rejection

open Precedence

/-- A level closes over an operand as it does over the conjunction that ends with it. -/
theorem Level.close_eq (l : Level) (e : Filter) :
    l.close e = Level.close { disjunct := l.disjunct } (l.conjoin e) :=
  rfl

theorem keyword_of_ofKeyword? {k : Keyword} {op : CompareOp}
    (h : CompareOp.ofKeyword? k = some op) : k = op.keyword := by
  cases operator_iff.mp h <;> rfl

/-- The filter that more kinds of tokens complete a reading to, with no limits. -/
def Reading.completed? (r : Reading) (w : List TokenKind) : Option Filter :=
  match r.awaiting with
  | .operand => operand (r.outer.map Prod.snd) r.level w
  | .operator field => operand (r.outer.map Prod.snd) r.level (.identifier field :: w)
  | .literal field op =>
    operand (r.outer.map Prod.snd) r.level (.identifier field :: .keyword op.keyword :: w)
  | .connective e => connective (r.outer.map Prod.snd) r.level.disjunct (r.level.conjoin e) w

namespace Reading

variable {r r' : Reading} {t : Token}

/-- A step moves a kind of token from what is to come to what has been read. -/
theorem completed?_step (h : r.Step t r')
    (hneg : ∀ e, r.awaiting = .connective e → r.level.negations = 0) (u : List TokenKind) :
    r.completed? (t.kind :: u) = r'.completed? u := by
  obtain ⟨outer, level, awaiting, depth, comparisons⟩ := r
  cases h with
  | not ha hk _ | opening ha hk _ | field ha hk _ =>
    obtain rfl := ha
    rw [hk]
    simp [completed?, operand]
  | operator ha hk ho =>
    obtain rfl := ha
    rw [hk, keyword_of_ofKeyword? ho]
    rfl
  | literal ha hv =>
    obtain rfl := ha
    simp [completed?, operand, operandRead, hv, operator_iff.mpr (operator_keyword _), Level.conjoin]
  | @and e ha hk =>
    obtain rfl := ha
    obtain ⟨disjunct, conjunct, negations⟩ := level
    obtain rfl : negations = 0 := hneg e rfl
    rw [hk]
    simp only [completed?, connective]
  | or ha hk =>
    obtain rfl := ha
    rw [hk]
    simp only [completed?, connective, ← Level.close_eq]
  | closing ha hk ho =>
    obtain rfl := ha
    obtain rfl := ho
    rw [hk]
    simp only [completed?, connective, List.map_cons, ← Level.close_eq, operandRead]
    rfl

/-- Where a token is refused for another reason than a limit, nothing that begins with it completes
the reading. -/
theorem completed?_refused (h : r.step? t = none)
    (hdeep : ((r.count t).complaint t).fault ≠ .tooDeep)
    (hmany : ((r.count t).complaint t).fault ≠ .tooManyComparisons) (u : List TokenKind) :
    r.completed? (t.kind :: u) = none := by
  obtain ⟨outer, level, awaiting, depth, comparisons⟩ := r
  obtain ⟨kind, span⟩ := t
  cases awaiting with
  | operand =>
    cases kind with
    | identifier name => exact absurd rfl hmany
    | leftParen => exact absurd rfl hdeep
    | keyword k =>
      cases k with
      | not => exact absurd rfl hdeep
      | _ => simp [completed?, operand]
    | _ => simp [completed?, operand]
  | operator field =>
    cases kind with
    | keyword k =>
      have hk : CompareOp.ofKeyword? k = none := Option.map_eq_none_iff.mp h
      cases u with
      | nil => simp [completed?, operand]
      | cons kind u => simp [completed?, operand, hk]
    | _ => simp [completed?, operand]
  | literal field op =>
    have hv : kind.literal? = none := Option.map_eq_none_iff.mp h
    simp [completed?, operand, hv]
  | connective e =>
    cases kind with
    | keyword k =>
      cases k with
      | and | or => cases h
      | _ => simp [completed?, connective]
    | rightParen =>
      cases outer with
      | nil => simp [completed?, connective]
      | cons opened outer => cases h
    | _ => simp [completed?, connective]

/-- Where the text may not end, the reading is not complete. -/
theorem completed?_end (h : r.result? = none) : r.completed? [] = none := by
  obtain ⟨outer, level, awaiting, depth, comparisons⟩ := r
  cases awaiting with
  | connective e =>
    cases outer with
    | nil => cases h
    | cons opened outer => simp [completed?, connective]
  | _ => simp [completed?, operand]

/-- What follows tokens that have been read completes the start as it completes the reading. -/
theorem completed?_steps {w : List TokenKind} {ts : List Token} (h : r.Holds w)
    (hs : r.steps? ts = some r') (u : List TokenKind) :
    r.completed? (ts.map Token.kind ++ u) = r'.completed? u := by
  induction ts generalizing r w with
  | nil =>
    cases hs
    rfl
  | cons t ts ih =>
    obtain ⟨r₁, h₁, hs⟩ := Option.bind_eq_some_iff.mp hs
    have hstep := step_cases h₁
    have hneg : ∀ e, r.awaiting = .connective e → r.level.negations = 0 := by
      intro e ha
      obtain ⟨_, _, operand, _, _, _, _⟩ := h
      rw [ha] at operand
      exact operand.of_connective.1
    rw [List.map_cons, List.cons_append, completed?_step hstep hneg]
    exact ih (h.step hstep) hs

end Reading

/-- The reader finds the filter of every text of the grammar. -/
theorem Derives.completed? {w : List TokenKind} {e : Filter} {d n : Nat}
    (h : Derives .disjunction w e d n) : ({} : Reading).completed? w = some e := by
  obtain ⟨disjunct, x, rfl, hx⟩ := h.passes
  have hread := hx [] []
  rw [List.append_nil] at hread
  exact hread

end Rejection

section Parentheses

/-- The places of the parentheses that tokens leave open, the innermost first. -/
inductive Unclosed : List Span → List Token → Prop where
  | none {ts} (balanced : Balanced (ts.map Token.kind)) : Unclosed [] ts
  | opened {spans ts opening us} (around : Unclosed spans ts) (kind : opening.kind = .leftParen)
      (balanced : Balanced (us.map Token.kind)) :
      Unclosed (opening.span :: spans) (ts ++ opening :: us)

variable {spans : List Span} {ts us : List Token}

theorem Unclosed.append (h : Unclosed spans ts) (hu : Balanced (us.map Token.kind)) :
    Unclosed spans (ts ++ us) := by
  cases h with
  | none balanced =>
    refine .none ?_
    rw [List.map_append]
    exact balanced.append hu
  | opened around kind balanced =>
    rw [List.append_assoc, List.cons_append]
    refine .opened around kind ?_
    rw [List.map_append]
    exact balanced.append hu

theorem Unclosed.plain {t : Token} (h : Unclosed spans ts) (hopen : t.kind ≠ .leftParen)
    (hclose : t.kind ≠ .rightParen) : Unclosed spans (ts ++ [t]) :=
  h.append (.token hopen hclose)

/-- A step keeps account of the open parentheses. -/
theorem Unclosed.step {r r' : Reading} {t : Token} (h : Unclosed (r.outer.map Prod.fst) ts)
    (hs : r.Step t r') : Unclosed (r'.outer.map Prod.fst) (ts ++ [t]) := by
  cases hs with
  | not _ hk _ | field _ hk _ | operator _ hk _ | and _ hk | or _ hk =>
    exact h.plain (by simp [hk]) (by simp [hk])
  | literal _ hv =>
    refine h.plain ?_ ?_ <;>
    · intro hk
      rw [hk] at hv
      cases hv
  | opening _ hk _ => exact .opened h hk .nil
  | closing _ hk ho =>
    rw [ho, List.map_cons] at h
    generalize hspans : _ :: _ = spans at h
    cases h with
    | none _ => cases hspans
    | @opened _ before opening us around kind balanced =>
      cases hspans
      rw [List.append_assoc]
      refine around.append ?_
      rw [List.map_append, List.map_cons, List.map_singleton, kind, hk]
      exact balanced.nested

theorem Unclosed.steps {r r' : Reading} (h : Unclosed (r.outer.map Prod.fst) ts)
    (hs : r.steps? us = some r') : Unclosed (r'.outer.map Prod.fst) (ts ++ us) := by
  induction us generalizing r ts with
  | nil =>
    cases hs
    rwa [List.append_nil]
  | cons t us ih =>
    obtain ⟨r₁, h₁, hs⟩ := Option.bind_eq_some_iff.mp hs
    rw [List.append_cons]
    exact ih (h.step (Reading.step_cases h₁)) hs

end Parentheses

section Complaints

/-- A run fails at a token that may not stand at its place, or at the end. -/
theorem Parser.run_eq_error {finish : Token} {r : Reading} {ts : List Token} {x : SyntaxError}
    (h : (Parser.run finish r ts).1 = .error x) :
    (∃ before t after r', ts = before ++ t :: after ∧ r.steps? before = some r' ∧
      r'.step? t = none ∧ (r'.count t).complaint t = x) ∨
    (∃ r', r.steps? ts = some r' ∧ r'.result? = none ∧ r'.complaint finish = x) := by
  induction ts generalizing r with
  | nil =>
    refine .inr ⟨r, rfl, ?_⟩
    rw [Parser.run] at h
    cases he : r.result? with
    | some e =>
      rw [he] at h
      cases h
    | none =>
      rw [he] at h
      exact ⟨rfl, Except.error.inj h⟩
  | cons t ts ih =>
    rw [Parser.run] at h
    cases hnext : (r.count t).next? t with
    | none =>
      simp only [hnext] at h
      exact .inl ⟨[], t, ts, r, rfl, rfl, hnext, Except.error.inj h⟩
    | some r₁ =>
      simp only [hnext] at h
      have hstep (us : List Token) : r.steps? (t :: us) = r₁.steps? us :=
        congrArg (Option.bind · (Reading.steps? · us)) hnext
      rcases ih h with ⟨before, token, after, r', rfl, hs, hrest⟩ | ⟨r', hs, hrest⟩
      · exact .inl ⟨t :: before, token, after, r', rfl, (hstep before).trans hs, hrest⟩
      · exact .inr ⟨r', (hstep ts).trans hs, hrest⟩

/-- A complaint is about its token, unless a parenthesis is open at the end. -/
theorem Reading.complaint_span (r : Reading) (t : Token) :
    (r.complaint t).fault ≠ .missingClose ∧ (r.complaint t).span = t.span ∨
      (r.complaint t).fault = .missingClose ∧ t.kind = .eof ∧
        ∃ opening level outer, r.outer = (opening, level) :: outer ∧
          (r.complaint t).span = opening.merge t.span := by
  obtain ⟨outer, level, awaiting, depth, comparisons⟩ := r
  obtain ⟨kind, span⟩ := t
  cases awaiting with
  | connective e =>
    cases outer with
    | nil => cases kind <;> exact .inl ⟨nofun, rfl⟩
    | cons opened outer =>
      cases kind with
      | eof => exact .inr ⟨rfl, rfl, opened.1, opened.2, outer, rfl, rfl⟩
      | _ => exact .inl ⟨nofun, rfl⟩
  | operand | operator field | literal field op =>
    cases kind with
    | keyword k => cases k <;> exact .inl ⟨nofun, rfl⟩
    | _ => exact .inl ⟨nofun, rfl⟩

theorem SyntaxFault.message_unexpected (expected : Expectation) (found : TokenKind) :
    ∃ more, (SyntaxFault.unexpected expected found).message =
        "Unexpected end of input: expected ".toList ++ more ∨
      (SyntaxFault.unexpected expected found).message =
        "Unexpected token: expected ".toList ++ more := by
  cases found with
  | eof => exact ⟨_, .inl rfl⟩
  | _ => exact ⟨_, .inr (List.append_assoc _ _ _)⟩

/-- The message tells a missing parenthesis from every other fault. -/
theorem SyntaxFault.message_eq_missing {x : SyntaxFault} :
    x.message = "Unbalanced parenthesis: missing ')'".toList ↔ x = .missingClose := by
  refine ⟨fun h => ?_, fun h => by rw [h]; rfl⟩
  cases x with
  | missingClose => rfl
  | unexpected expected found =>
    obtain ⟨more, hm | hm⟩ := message_unexpected expected found
    · rw [hm] at h
      simp at h
    · rw [hm] at h
      simp at h
  | unknownOperator name =>
    change "Unknown operator '".toList ++ name ++ ['\''] = _ at h
    simp at h
  | malformed e =>
    cases e with
    | unterminatedString =>
      change "Unterminated string literal".toList = _ at h
      simp at h
    | unexpectedCharacter c =>
      change "Unexpected character: ".toList ++ [c] = _ at h
      simp at h
    | invalidNumber text =>
      change "Invalid number: ".toList ++ text = _ at h
      simp at h
    | invalidFloat =>
      change "Invalid float: invalid float literal".toList = _ at h
      simp at h
    | integerTooLarge =>
      change "Invalid integer: number too large to fit in target type".toList = _ at h
      simp at h
    | integerTooSmall =>
      change "Invalid integer: number too small to fit in target type".toList = _ at h
      simp at h
  | unexpectedClose =>
    change "Unbalanced parenthesis: unexpected ')'".toList = _ at h
    simp at h
  | tooDeep =>
    change "Expression nested too deeply".toList = _ at h
    simp at h
  | tooManyComparisons =>
    change "Expression has more than 1024 comparisons".toList = _ at h
    simp at h

end Complaints

section Places

variable {r : Reading} {ts : List Token}

theorem viable_of_steps (hs : ({} : Reading).steps? ts = some r) : Viable (ts.map Token.kind) := by
  have hr := Reading.holds_start.steps hs
  rw [List.nil_append] at hr
  exact hr.viable

theorem not_viable_of_refused {t : Token} (hs : ({} : Reading).steps? ts = some r)
    (hnone : r.step? t = none) (hdeep : ((r.count t).complaint t).fault ≠ .tooDeep)
    (hmany : ((r.count t).complaint t).fault ≠ .tooManyComparisons) :
    ¬Viable (ts.map Token.kind ++ [t.kind]) := by
  rintro ⟨u, e, d, n, hd⟩
  have hread := hd.completed?
  rw [List.append_assoc, List.singleton_append, Reading.completed?_steps Reading.holds_start hs,
    Reading.completed?_refused hnone hdeep hmany] at hread
  cases hread

theorem not_complete_of_result? (hs : ({} : Reading).steps? ts = some r)
    (hnone : r.result? = none) : ¬Complete (ts.map Token.kind) := by
  rintro ⟨e, d, n, hd⟩
  have hread := Reading.completed?_steps Reading.holds_start hs []
  rw [List.append_nil, hd.completed?, Reading.completed?_end hnone] at hread
  cases hread

theorem Span.merge_eq {a b : Span} (hstart : a.start ≤ b.start) (hstop : a.stop ≤ b.stop) :
    a.merge b = ⟨a.start, b.stop⟩ := by
  rw [Span.merge, Nat.min_eq_left hstart, Nat.max_eq_right hstop]

/-- The innermost parenthesis that is open after all tokens of a text, up to the end of the text. -/
theorem unclosed_of_steps {t : Text} {opening : Span} {level : Level} {outer : List (Span × Level)}
    (hs : ({} : Reading).steps? (Lexer.tokens t) = some r)
    (ho : r.outer = (opening, level) :: outer) :
    ∃ before token after, Lexer.tokens t = before ++ token :: after ∧ token.kind = .leftParen ∧
      Balanced (after.map Token.kind) ∧
      opening.merge (Lexer.endToken t).span = ⟨token.span.start, Text.byteSize t⟩ := by
  have hstart : Unclosed (({} : Reading).outer.map Prod.fst) [] := .none .nil
  have hend := hstart.steps hs
  rw [ho, List.map_cons, List.nil_append] at hend
  generalize hts : Lexer.tokens t = us at hend
  cases hend with
  | @opened _ before token after _ kind balanced =>
    refine ⟨before, token, after, rfl, kind, balanced, ?_⟩
    have hmem : token ∈ Lexer.tokens t := by simp [hts]
    have hbounds := (Lexer.tiled_tokensFrom 0 t).bounds hmem
    rw [Nat.zero_add] at hbounds
    have hstart : token.span.start ≤ Text.byteSize t := by omega
    exact Span.merge_eq hstart hbounds.2.2

end Places

/-- A text that is refused, for another reason than a limit, because a parenthesis is not closed is
reported from the innermost such parenthesis up to the end. For any other reason the place is that of
the first token, or of the end, that cannot stand there: what comes before it begins some filter, and
with it nothing does; at the end what comes before it is no filter. -/
theorem parse_error_place {t : Text} {x : SyntaxError} (h : Filter.parse t = .error x)
    (hdeep : x.fault ≠ .tooDeep) (hmany : x.fault ≠ .tooManyComparisons) :
    (x.fault.message = "Unbalanced parenthesis: missing ')'".toList →
      ∃ before opening after, Lexer.tokens t = before ++ opening :: after ∧
        opening.kind = .leftParen ∧ Balanced (after.map Token.kind) ∧
        x.span = ⟨opening.span.start, Text.byteSize t⟩) ∧
    (x.fault.message ≠ "Unbalanced parenthesis: missing ')'".toList →
      ∃ before token after, Lexer.tokenize t = before ++ token :: after ∧ x.span = token.span ∧
        Viable (before.map Token.kind) ∧
        (token.kind ≠ .eof → ¬Viable (before.map Token.kind ++ [token.kind])) ∧
        (token.kind = .eof → ¬Complete (before.map Token.kind))) := by
  simp only [ne_eq, SyntaxFault.message_eq_missing]
  have hrun : (Parser.run (Lexer.endToken t) {} (Lexer.tokens t)).1 = .error x := h
  rcases Parser.run_eq_error hrun with ⟨before, token, after, r, hts, hs, hnone, rfl⟩ |
    ⟨r, hs, hnone, rfl⟩
  · -- a token is refused; it is not the end of input
    have hmem : token ∈ Lexer.tokens t := by simp [hts]
    have hkind := Lexer.tokens_ne_eof hmem
    rcases (r.count token).complaint_span token with ⟨hfault, hspan⟩ | ⟨_, heof, _⟩
    · refine ⟨fun hmissing => absurd hmissing hfault, fun _ => ?_⟩
      refine ⟨before, token, after ++ [Lexer.endToken t], ?_, hspan, viable_of_steps hs,
        fun _ => not_viable_of_refused hs hnone hdeep hmany,
        fun heof => absurd heof hkind⟩
      rw [Lexer.tokenize, hts, List.append_assoc, List.cons_append]
    · exact absurd heof hkind
  · rcases r.complaint_span (Lexer.endToken t) with
      ⟨hfault, hspan⟩ | ⟨hfault, _, opening, level, outer, ho, hspan⟩
    · refine ⟨fun hmissing => absurd hmissing hfault, fun _ => ?_⟩
      exact ⟨Lexer.tokens t, Lexer.endToken t, [], rfl, hspan, viable_of_steps hs,
        fun heof => absurd rfl heof, fun _ => not_complete_of_result? hs hnone⟩
    · refine ⟨fun _ => ?_, fun hmissing => absurd hfault hmissing⟩
      rw [hspan]
      exact unclosed_of_steps hs ho

/-- A number stands where an operator has to. -/
theorem parse_error_place_number :
    ∃ before token after,
      Lexer.tokenize "not (a eq 1 or b 2)".toList = before ++ token :: after ∧
        (⟨17, 18⟩ : Span) = token.span ∧ Viable (before.map Token.kind) ∧
        (token.kind ≠ .eof → ¬Viable (before.map Token.kind ++ [token.kind])) ∧
        (token.kind = .eof → ¬Complete (before.map Token.kind)) := by
  have hparse : Filter.parse "not (a eq 1 or b 2)".toList =
      .error ⟨.unexpected .operator (.integer 2), ⟨17, 18⟩⟩ := by decide
  exact (parse_error_place hparse nofun nofun).2 (by decide)

end RequestSql
