import RequestSql.Proofs.Placeholders

namespace RequestSql

section Outlines

def TokenKind.outline (kind : TokenKind) : TokenKind :=
  if kind.literal?.isSome then .keyword .null else kind

def Filter.outline : Filter → Filter
  | .comparison field op _ => .comparison field op .null
  | .logical op left right => .logical op left.outline right.outline
  | .not inner => .not inner.outline

def Piece.outline : Piece → Piece
  | .text t => .text t
  | .parameter _ => .parameter .null

def Statement.outline (s : Statement) : Statement :=
  { s with filter := s.filter.map Filter.outline }

def Token.Alike (t u : Token) : Prop :=
  t.kind = u.kind ∨ (∃ v, Literal t.kind v) ∧ ∃ v, Literal u.kind v

end Outlines

namespace TokenKind

variable {j k : TokenKind}

theorem outline_literal {v : Value} (h : k.literal? = some v) : k.outline = .keyword .null := by
  simp [outline, h]

theorem outline_plain (h : k.literal? = none) : k.outline = k := by
  simp [outline, h]

/-- Nothing is forgotten of a token that is no literal. -/
theorem eq_of_outline (h : k.outline = j.outline) (hj : j.literal? = none) : k = j := by
  rw [outline_plain hj] at h
  cases hk : k.literal? with
  | none => rw [← h, outline_plain hk]
  | some v =>
    rw [outline_literal hk] at h
    rw [← h] at hj
    cases hj

theorem literal_of_outline {v : Value} (h : k.outline = j.outline) (hj : j.literal? = some v) :
    ∃ u, k.literal? = some u := by
  cases hk : k.literal? with
  | some u => exact ⟨u, rfl⟩
  | none =>
    rw [outline_plain hk, outline_literal hj] at h
    rw [h] at hk
    cases hk

theorem outline_of_alike {t u : Token} (h : t.Alike u) : t.kind.outline = u.kind.outline := by
  rcases h with h | ⟨⟨v, hv⟩, w, hw⟩
  · rw [h]
  · rw [outline_literal (literal_iff.mpr hv), outline_literal (literal_iff.mpr hw)]

theorem alike_iff {t u : Token} : t.Alike u ↔ t.kind.outline = u.kind.outline := by
  refine ⟨outline_of_alike, fun h => ?_⟩
  cases hu : u.kind.literal? with
  | none => exact .inl (eq_of_outline h hu)
  | some v =>
    obtain ⟨w, hw⟩ := literal_of_outline h hu
    exact .inr ⟨⟨w, literal_iff.mp hw⟩, v, literal_iff.mp hu⟩

instance : DecidableRel Token.Alike :=
  fun _ _ => decidable_of_iff _ alike_iff.symm

theorem map_outline_of_alike {ts us : List Token} (h : List.Forall₂ Token.Alike ts us) :
    (ts.map Token.kind).map outline = (us.map Token.kind).map outline := by
  induction h with
  | nil => rfl
  | cons ht _ ih =>
    simp only [List.map_cons]
    rw [outline_of_alike ht, ih]

end TokenKind

section Parsing

/-- Kinds that have the outline of a text, one more kind that is no literal, and another text. -/
theorem outline_split {w' v w : List TokenKind} {k : TokenKind} (hk : k.literal? = none)
    (h : w'.map TokenKind.outline = (v ++ k :: w).map TokenKind.outline) :
    ∃ v' u', w' = v' ++ k :: u' ∧ v'.map TokenKind.outline = v.map TokenKind.outline ∧
      u'.map TokenKind.outline = w.map TokenKind.outline := by
  rw [List.map_append, List.map_cons] at h
  obtain ⟨v', rest, rfl, hv, hrest⟩ := List.map_eq_append_iff.mp h
  obtain ⟨k', u', rfl, hk', hu⟩ := List.map_eq_cons_iff.mp hrest
  obtain rfl := TokenKind.eq_of_outline hk' hk
  exact ⟨v', u', rfl, hv, hu⟩

/-- Texts of the same outline are derived alike. -/
theorem Derives.outline {layer : Layer} {w w' : List TokenKind} {e : Filter} {d n : Nat}
    (h : Derives layer w e d n)
    (hw : w'.map TokenKind.outline = w.map TokenKind.outline) :
    ∃ e', Derives layer w' e' d n ∧ e'.outline = e.outline := by
  induction h generalizing w' with
  | single _ ih =>
    obtain ⟨e', he, ho⟩ := ih hw
    exact ⟨e', he.single, ho⟩
  | operand _ ih =>
    obtain ⟨e', he, ho⟩ := ih hw
    exact ⟨e', he.operand, ho⟩
  | plain _ ih =>
    obtain ⟨e', he, ho⟩ := ih hw
    exact ⟨e', he.plain, ho⟩
  | or _ _ ihl ihr =>
    obtain ⟨v', u', rfl, hv, hu⟩ := outline_split rfl hw
    obtain ⟨l', hl, hlo⟩ := ihl hv
    obtain ⟨r', hr, hro⟩ := ihr hu
    exact ⟨.logical .or l' r', hl.or hr, by rw [Filter.outline, hlo, hro, Filter.outline]⟩
  | and _ _ ihl ihr =>
    obtain ⟨v', u', rfl, hv, hu⟩ := outline_split rfl hw
    obtain ⟨l', hl, hlo⟩ := ihl hv
    obtain ⟨r', hr, hro⟩ := ihr hu
    exact ⟨.logical .and l' r', hl.and hr, by rw [Filter.outline, hlo, hro, Filter.outline]⟩
  | not _ ih =>
    obtain ⟨v', u', rfl, hv, hu⟩ := outline_split (v := []) rfl hw
    obtain rfl := List.map_eq_nil_iff.mp hv
    obtain ⟨e', he, ho⟩ := ih hu
    exact ⟨.not e', he.not, by rw [Filter.outline, ho, Filter.outline]⟩
  | parentheses _ ih =>
    obtain ⟨v', u', rfl, hv, hu⟩ := outline_split (v := []) rfl hw
    obtain rfl := List.map_eq_nil_iff.mp hv
    obtain ⟨x', y', rfl, hx, hy⟩ := outline_split rfl hu
    obtain rfl := List.map_eq_nil_iff.mp hy
    obtain ⟨e', he, ho⟩ := ih hx
    exact ⟨e', he.parentheses, ho⟩
  | @comparison field k op kind value operator literal =>
    obtain ⟨v', u', rfl, hv, hu⟩ := outline_split (v := []) rfl hw
    obtain rfl := List.map_eq_nil_iff.mp hv
    obtain ⟨x', y', rfl, hx, hy⟩ := outline_split (v := []) (operator_no_literal operator) hu
    obtain rfl := List.map_eq_nil_iff.mp hx
    obtain ⟨kind', rest, rfl, hkind, hrest⟩ := List.map_eq_cons_iff.mp hy
    obtain rfl := List.map_eq_nil_iff.mp hrest
    -- The values differ, and a value is what is forgotten.
    obtain ⟨value', hvalue⟩ := TokenKind.literal_of_outline hkind (literal_iff.mpr literal)
    exact ⟨.comparison field op value', .comparison operator (literal_iff.mp hvalue), rfl⟩

theorem Lexer.tokenize_kinds (t : Text) :
    (tokenize t).map Token.kind = (tokens t).map Token.kind ++ [.eof] := by
  rw [tokenize, List.map_append]
  rfl

/-- Texts whose tokens are alike are accepted alike. -/
theorem Filter.parse_outline {t u : Text} {e : Filter}
    (ht : List.Forall₂ Token.Alike (Lexer.tokenize u) (Lexer.tokenize t))
    (h : Filter.parse t = .ok e) : ∃ e', Filter.parse u = .ok e' ∧ e'.outline = e.outline := by
  have hkinds := TokenKind.map_outline_of_alike ht
  rw [Lexer.tokenize_kinds, Lexer.tokenize_kinds, List.map_append, List.map_append] at hkinds
  obtain ⟨d, n, hd, hdepth, hcount⟩ := (Filter.parse_eq_ok t e).mp h
  obtain ⟨e', he, ho⟩ := hd.outline (List.append_cancel_right hkinds)
  exact ⟨e', (Filter.parse_eq_ok u e').mpr ⟨d, n, he, hdepth, hcount⟩, ho⟩

theorem Lexer.tokensFrom_eq_nil_iff {offset : Nat} {t : Text} :
    tokensFrom offset 0 t = [] ↔ t.isAllBlank = true := by
  induction t generalizing offset with
  | nil => exact ⟨fun _ => rfl, fun _ => rfl⟩
  | cons c t ih =>
    rw [tokensFrom]
    cases hc : Text.isBlank c with
    | true =>
      rw [if_pos rfl, ih]
      simp [Text.isAllBlank, hc]
    | false => simp [Text.isAllBlank, hc]

/-- Texts whose tokens are alike are blank alike, since a blank text has none. -/
theorem Lexer.isAllBlank_of_alike {t u : Text}
    (h : List.Forall₂ Token.Alike (tokenize u) (tokenize t)) : u.isAllBlank = t.isAllBlank := by
  have hlength := h.length_eq
  rw [tokenize, tokenize, List.length_append, List.length_append] at hlength
  have htokens : tokens u = [] ↔ tokens t = [] := by
    rw [← List.length_eq_zero_iff, ← List.length_eq_zero_iff, Nat.add_right_cancel hlength]
  rw [Bool.eq_iff_iff]
  exact tokensFrom_eq_nil_iff.symm.trans (htokens.trans tokensFrom_eq_nil_iff)

end Parsing

section Rendering

theorem Filter.fields_outline (e : Filter) : e.outline.fields = e.fields := by
  induction e with
  | comparison field op value => rfl
  | logical op left right ihl ihr => rw [outline, fields, ihl, ihr, fields]
  | not inner ih => exact ih

theorem Filter.outline_mapFields (f : Text → Text) (e : Filter) :
    (e.mapFields f).outline = e.outline.mapFields f := by
  induction e with
  | comparison field op value => rfl
  | logical op left right ihl ihr => rw [mapFields, outline, ihl, ihr, outline, mapFields]
  | not inner ih => rw [mapFields, outline, ih, outline, mapFields]

theorem Filter.fragment_outline (e : Filter) : e.outline.fragment = e.fragment.map Piece.outline := by
  fun_induction Filter.fragment e with
  | case1 field op value => rfl
  | case2 op left right ihl ihr =>
    simp only [outline, fragment, ihl, ihr, List.map_append, List.map_cons, List.map_nil,
      Piece.outline]
  | case3 op left right ih =>
    rw [List.map_cons, ← ih]
    rfl
  | case4 inner hinner ih =>
    rw [List.cons_append, List.map_cons, List.map_append, ← ih]
    cases inner with
    | comparison field op value => rfl
    | logical op left right => exact absurd rfl (hinner op left right)
    | not inner => rfl

/-- A placeholder does not tell its parameter. -/
theorem Fragment.renderFrom_outline (style : PlaceholderStyle) (f : Fragment) (n : Nat) :
    renderFrom style n (f.map Piece.outline) = renderFrom style n f := by
  induction f generalizing n with
  | nil => rfl
  | cons piece f ih =>
    cases piece with
    | text t => exact congrArg (t ++ ·) (ih n)
    | parameter v => exact congrArg (style.placeholder n ++ ·) (ih (n + 1))

theorem Statement.fragment_outline (s : Statement) :
    s.outline.fragment = s.fragment.map Piece.outline := by
  have hcondition : s.outline.condition = s.condition.map Piece.outline := by
    cases hf : s.filter with
    | none => simp [condition, outline, hf]
    | some e => simp [condition, outline, hf, e.fragment_outline, Piece.outline]
  rw [fragment, hcondition, fragment, List.map_append]
  rfl

theorem Statement.sql_outline (s : Statement) (style : PlaceholderStyle) :
    s.outline.sql style = s.sql style := by
  rw [sql, Fragment.render, fragment_outline, Fragment.renderFrom_outline]
  rfl

/-- The joins are planned by the fields of a filter and not by its values. -/
theorem Options.assemble_outline (o : Options) (expansions : List Expansion) (p : Projection)
    (filter : Option Filter) (c : Clauses) :
    o.assemble expansions p (filter.map Filter.outline) c =
      (o.assemble expansions p filter c).outline := by
  cases filter with
  | none => rfl
  | some e => simp only [assemble, Statement.outline, Option.map_some, e.fields_outline]

end Rendering

section Compiling

variable {o : Options}

/-- What is read of a filter has the outline of what is read of one whose tokens are alike. -/
theorem Options.read_filter_outline {p p' : Params} {f f' : Text} {filter : Option Filter}
    (hf : p.get? Directive.filter.key = some f) (hf' : p'.get? Directive.filter.key = some f')
    (ht : List.Forall₂ Token.Alike (Lexer.tokenize f') (Lexer.tokenize f))
    (h : p.directives.read .filter o.parseFilter = .ok filter) :
    ∃ filter', p'.directives.read .filter o.parseFilter = .ok filter' ∧
      filter'.map Filter.outline = filter.map Filter.outline := by
  have hblank := Lexer.isAllBlank_of_alike ht
  cases hb : f.isAllBlank with
  | true =>
    rw [hb] at hblank
    have hg : p.directives .filter = none := by simp [Params.directives, hf, hb]
    have hg' : p'.directives .filter = none := by simp [Params.directives, hf', hblank]
    rw [Directives.read_absent h hg]
    exact ⟨none, by rw [Directives.read, hg'], rfl⟩
  | false =>
    rw [hb] at hblank
    have hg := Params.directives_eq_some.mpr ⟨hf, hb⟩
    have hg' := Params.directives_eq_some.mpr ⟨hf', hblank⟩
    obtain ⟨resolved, hp, rfl⟩ := Directives.read_given h hg
    unfold parseFilter at hp
    split at hp
    · rename_i e he
      cases hp
      obtain ⟨e', he', ho⟩ := Filter.parse_outline ht he
      refine ⟨some (e'.mapFields o.scope.resolve), ?_, ?_⟩
      · rw [Directives.read, hg']
        simp only [parseFilter, he']
        rfl
      · rw [Option.map_some, Option.map_some, Filter.outline_mapFields, ho,
          Filter.outline_mapFields]
    · cases hp

/-- Directives that differ in the values of the filter only give statements of one outline. -/
theorem Options.Stages.outline {given given' : Directives} (s : o.Stages given)
    (hd : ∀ d, d ≠ .filter → given' d = given d) {filter : Option Filter}
    (hf : given'.read .filter o.parseFilter = .ok filter)
    (ho : filter.map Filter.outline = s.filter.map Filter.outline) :
    ∃ s' : o.Stages given', s'.statement.outline = s.statement.outline := by
  have hexpansions : o.expansions given' = o.expansions given := by
    simp only [Options.expansions, Directives.read, hd .expand (by decide)]
  have hprojection : o.projection given' s.expansions = o.projection given s.expansions := by
    simp only [Options.projection, Directives.read, hd .apply (by decide),
      hd .select (by decide)]
  have hclauses : o.clauses given' = o.clauses given := by
    simp only [Options.clauses, Directives.read, hd .orderBy (by decide), hd .top (by decide),
      hd .skip (by decide)]
  refine ⟨⟨s.expansions, s.projection, filter, s.clauses, s.checked,
    hexpansions.trans s.expansions_ok, hprojection.trans s.projection_ok, hf,
    hclauses.trans s.clauses_ok⟩, ?_⟩
  rw [statement, statement, ← assemble_outline, ← assemble_outline, ho]

/-- A request whose filter is changed in its literals only is accepted, with the same text. -/
theorem compileParams_outline {p p' : Params} {f f' : Text} {q : Query}
    (hd : ∀ d, d ≠ .filter → p'.directives d = p.directives d)
    (hf : p.get? Directive.filter.key = some f) (hf' : p'.get? Directive.filter.key = some f')
    (ht : List.Forall₂ Token.Alike (Lexer.tokenize f') (Lexer.tokenize f))
    (h : compileParams o p = .ok q) : ∃ q', compileParams o p' = .ok q' ∧ q'.sql = q.sql := by
  obtain ⟨st, hst, rfl⟩ := compileParams_eq_ok h
  obtain ⟨s, rfl⟩ := Options.statement_eq_ok hst
  obtain ⟨filter, hread, ho⟩ := Options.read_filter_outline hf hf' ht s.filter_ok
  obtain ⟨s', houtline⟩ := s.outline hd hread ho
  have hsql : s'.statement.sql o.style = s.statement.sql o.style := by
    rw [← Statement.sql_outline, houtline, Statement.sql_outline]
  exact ⟨_, compileParams_of_statement s'.statement_ok, hsql⟩

theorem Token.Alike.symm {t u : Token} (h : t.Alike u) : u.Alike t :=
  h.imp Eq.symm And.symm

end Compiling

/-- Requests that differ in the literals of their filters only, whatever the literals are, fail
both or have the same text. -/
theorem sql_without_literals {o : Options} {p p' : Params} {f f' : Text}
    (hd : ∀ d, d ≠ .filter → p.directives d = p'.directives d)
    (hf : p.get? Directive.filter.key = some f) (hf' : p'.get? Directive.filter.key = some f')
    (ht : List.Forall₂ Token.Alike (Lexer.tokenize f) (Lexer.tokenize f')) :
    (∃ e e', compileParams o p = .error e ∧ compileParams o p' = .error e') ∨
      ∃ q q', compileParams o p = .ok q ∧ compileParams o p' = .ok q' ∧ q.sql = q'.sql := by
  have hflip : List.Forall₂ Token.Alike (Lexer.tokenize f') (Lexer.tokenize f) :=
    ht.flip.imp fun _ _ => Token.Alike.symm
  cases h : compileParams o p with
  | ok q =>
    obtain ⟨q', hq', hsql⟩ := compileParams_outline (fun d hne => (hd d hne).symm) hf hf' hflip h
    exact .inr ⟨q, q', rfl, hq', hsql.symm⟩
  | error e =>
    cases h' : compileParams o p' with
    | error e' => exact .inl ⟨e, e', rfl, rfl⟩
    | ok q' =>
      obtain ⟨q, hq, _⟩ := compileParams_outline hd hf' hf ht h'
      rw [h] at hq
      cases hq

/-- A string, a number and a reserved word give one text. -/
theorem sql_without_literals_orders :
    ∃ q q', compileParams .orders ⟨[("$top".toList, "3".toList),
        ("$filter".toList, "city eq '--' and total gt 1".toList)]⟩ = .ok q ∧
      compileParams .orders ⟨[("$top".toList, "3".toList),
        ("$filter".toList, "city eq null and total gt 2.5".toList)]⟩ = .ok q' ∧
      q.sql = q'.sql := by
  have ht : List.Forall₂ Token.Alike (Lexer.tokenize "city eq '--' and total gt 1".toList)
      (Lexer.tokenize "city eq null and total gt 2.5".toList) := by decide +kernel
  have hok : (compileParams .orders ⟨[("$top".toList, "3".toList),
      ("$filter".toList, "city eq '--' and total gt 1".toList)]⟩).isOk = true := by
    decide +kernel
  have hd : ∀ d, d ≠ Directive.filter →
      Params.directives ⟨[("$top".toList, "3".toList),
        ("$filter".toList, "city eq '--' and total gt 1".toList)]⟩ d =
      Params.directives ⟨[("$top".toList, "3".toList),
        ("$filter".toList, "city eq null and total gt 2.5".toList)]⟩ d := by
    intro d hne
    cases d with
    | filter => exact absurd rfl hne
    | _ => decide +kernel
  rcases sql_without_literals (o := .orders) hd rfl rfl ht with ⟨e, e', h, _⟩ | h
  · rw [h] at hok
    cases hok
  · exact h

end RequestSql
