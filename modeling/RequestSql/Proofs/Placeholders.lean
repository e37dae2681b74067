import RequestSql.Proofs.Alphabet
import RequestSql.Proofs.Recognition

namespace RequestSql

/-- The placeholders of a text in order: every question mark, and every dollar sign with the digits
after it. -/
def Text.placeholders : Text → List Text
  | [] => []
  | c :: t =>
    if c = '?' then [c] :: placeholders t
    else if c = '$' then (c :: t.takeWhile Char.isDigit) :: placeholders t
    else placeholders t

namespace Text

def isPlain (c : Char) : Bool :=
  c != '?' && c != '$'

variable {c : Char} {t u : Text}

theorem placeholders_cons (hc : isPlain c = true) : placeholders (c :: t) = placeholders t := by
  rw [isPlain, Bool.and_eq_true, bne_iff_ne, bne_iff_ne] at hc
  rw [placeholders, if_neg hc.1, if_neg hc.2]

theorem placeholders_append (ht : t.all isPlain = true) :
    placeholders (t ++ u) = placeholders u := by
  induction t with
  | nil => rfl
  | cons c t ih =>
    rw [List.all_cons, Bool.and_eq_true] at ht
    rw [List.cons_append, placeholders_cons ht.1, ih ht.2]

/-- What neither the question mark nor the dollar sign satisfies begins no placeholder. -/
theorem isPlain_of {p : Char → Bool} (hq : p '?' = false) (hd : p '$' = false)
    (h : p c = true) : isPlain c = true := by
  rw [isPlain, Bool.and_eq_true, bne_iff_ne, bne_iff_ne]
  constructor
  · rintro rfl
    rw [hq] at h
    cases h
  · rintro rfl
    rw [hd] at h
    cases h

section Collapsing

/-- White space ends a placeholder. -/
theorem placeholders_append_blank (h : isBlank c = true) :
    placeholders (t ++ c :: u) = placeholders t ++ placeholders u := by
  have hdigits : (c :: u).takeWhile Char.isDigit = [] := by
    rw [List.takeWhile_cons_of_neg (by simp [isDigit_of_isBlank h])]
  induction t with
  | nil => exact placeholders_cons (isPlain_of (by decide) (by decide) h)
  | cons d t ih =>
    have htake : (t ++ c :: u).takeWhile Char.isDigit = t.takeWhile Char.isDigit := by
      rw [List.takeWhile_append, hdigits, List.append_nil]
      split
      · rename_i hl
        exact (List.IsPrefix.eq_of_length (List.takeWhile_prefix _) hl).symm
      · rfl
    rw [List.cons_append, placeholders, placeholders, ih, htake]
    split
    · rfl
    · split <;> rfl

theorem placeholders_splitBy (t : Text) :
    placeholders t = (splitBy isBlank t).flatMap placeholders := by
  rw [splitBy_eq_splitOnP]
  -- Both parts of a text that is cut at a blank are shorter, whichever blank it is.
  by_cases h : ∃ c ∈ t, isBlank c = true
  · obtain ⟨c, hm, hc⟩ := h
    obtain ⟨u, v, ht⟩ := List.mem_iff_append.mp hm
    have hu := placeholders_splitBy u
    have hv := placeholders_splitBy v
    rw [splitBy_eq_splitOnP] at hu hv
    rw [ht, placeholders_append_blank hc, List.splitOnP_append_cons _ _ hc, List.flatMap_append,
      hu, hv]
  · have hnone : ∀ c ∈ t, isBlank c = false := by simpa using h
    rw [List.splitOnP_eq_singleton hnone, List.flatMap_singleton]
termination_by t.length
decreasing_by all_goals rw [ht, List.length_append, List.length_cons]; omega

theorem placeholders_words (t : Text) :
    (words t).flatMap placeholders = (splitBy isBlank t).flatMap placeholders := by
  unfold words
  induction splitBy isBlank t with
  | nil => rfl
  | cons w ws ih =>
    cases w with
    | nil => simpa [placeholders] using ih
    | cons c w => simpa using ih

theorem placeholders_intercalate (ws : List Text) :
    placeholders ([' '].intercalate ws) = ws.flatMap placeholders := by
  induction ws with
  | nil => rfl
  | cons v ws ih =>
    cases ws with
    | nil => simp
    | cons w ws =>
      rw [List.intercalate_cons_cons, List.append_assoc, List.singleton_append,
        placeholders_append_blank (by decide), ih]
      rfl

/-- Collapsing a text keeps its placeholders. -/
theorem placeholders_collapse (t : Text) : placeholders (collapse t) = placeholders t := by
  rw [collapse, placeholders_intercalate, placeholders_words, ← placeholders_splitBy]

end Collapsing

/-- A placeholder is read back from where it was written, unless a digit follows it. -/
theorem placeholders_placeholder (style : PlaceholderStyle) (n : Nat)
    (ht : ∀ c ∈ t.head?, c.isDigit = false) :
    placeholders (style.placeholder n ++ t) = style.placeholder n :: placeholders t := by
  cases style with
  | mysql => rfl
  | postgres =>
    have hdigits : ∀ c ∈ ofNat n, c.isDigit = true :=
      fun c hc => Nat.isDigit_of_mem_toDigits (by omega) (by omega) hc
    have hplain : (ofNat n).all isPlain = true :=
      List.all_eq_true.mpr fun c hc => isPlain_of (by decide) (by decide) (hdigits c hc)
    have hrest : t.takeWhile Char.isDigit = [] := by
      cases t with
      | nil => rfl
      | cons c t => exact List.takeWhile_cons_of_neg (by simp [ht c rfl])
    change placeholders ('$' :: (ofNat n ++ t)) = _
    rw [placeholders, if_neg (by decide), if_pos rfl, List.takeWhile_append_of_pos hdigits, hrest,
      List.append_nil, placeholders_append hplain]
    rfl

end Text

namespace Fragment

theorem params_append (f g : Fragment) : (f ++ g).params = f.params ++ g.params := by
  induction f with
  | nil => rfl
  | cons piece f ih =>
    cases piece with
    | text t => exact ih
    | parameter v => exact congrArg (v :: ·) ih

variable {style : PlaceholderStyle} {n : Nat} {t : Text} {f : Fragment}

theorem placeholders_text (ht : t.all Text.isPlain = true) :
    Text.placeholders (renderFrom style n (.text t :: f)) =
      Text.placeholders (renderFrom style n f) :=
  Text.placeholders_append ht

/-- A text that begins with no digit ends the placeholder before it. -/
theorem head_text {c : Char} (hc : c.isDigit = false) :
    ∀ n, ∀ d ∈ (renderFrom style n (.text (c :: t) :: f)).head?, d.isDigit = false := by
  intro n d hd
  cases hd
  exact hc

end Fragment

namespace Filter

open Fragment

theorem params_fragment (e : Filter) : e.fragment.params = e.values := by
  fun_induction Filter.fragment e with
  | case1 field op value => rfl
  | case2 op left right ihl ihr =>
    simp only [List.cons_append, params_append, Fragment.params, ihl, ihr, values, List.append_nil]
  | case3 op left right ih => exact ih
  | case4 inner _ ih =>
    simp only [List.cons_append, params_append, Fragment.params, ih, values, List.append_nil]

theorem length_values (e : Filter) : e.values.length = e.paramCount := by
  induction e with
  | comparison field op value => rfl
  | logical op left right ihl ihr => rw [values, List.length_append, ihl, ihr, paramCount]
  | not inner ih => exact ih

/-- A filter numbers its placeholders one after the other, and what follows goes on from there. -/
theorem placeholders_fragment {style : PlaceholderStyle} {e : Filter} {rest : Fragment} {n : Nat}
    (hfields : ∀ field ∈ e.fields, field.all Text.isPlain = true)
    (hrest : ∀ n, ∀ c ∈ (rest.renderFrom style n).head?, c.isDigit = false) :
    Text.placeholders (Fragment.renderFrom style n (e.fragment ++ rest)) =
      (List.range' n e.paramCount).map style.placeholder ++
        Text.placeholders (rest.renderFrom style (n + e.paramCount)) := by
  -- What follows a left operand is its connective and the right operand, so the rest is general.
  fun_induction Filter.fragment e generalizing rest n with
  | case1 field op value =>
    have hop : (' ' :: (op.sql ++ [' '])).all Text.isPlain = true := by
      cases op <;> decide
    have hfield := hfields field List.mem_cons_self
    have hvalue := Text.placeholders_placeholder style n (hrest (n + 1))
    simp only [List.cons_append, List.nil_append]
    rw [placeholders_text hfield, placeholders_text hop]
    exact hvalue
  | case2 op left right ihl ihr =>
    have hop : (' ' :: (op.sql ++ [' '])).all Text.isPlain = true := by
      cases op <;> decide
    obtain ⟨hl, hr⟩ := List.forall_mem_append.mp hfields
    simp only [List.cons_append, List.append_assoc, List.nil_append]
    rw [placeholders_text (by decide), ihl hl (head_text (by decide)), placeholders_text hop,
      ihr hr (head_text (by decide)), placeholders_text (by decide), paramCount,
      ← List.range'_append_1, List.map_append, List.append_assoc, Nat.add_assoc]
  | case3 op left right ih =>
    rw [List.cons_append, placeholders_text (by decide)]
    exact ih hfields hrest
  | case4 inner _ ih =>
    simp only [List.cons_append, List.append_assoc, List.nil_append]
    rw [placeholders_text (by decide), ih hfields (head_text (by decide)),
      placeholders_text (by decide)]
    rfl

end Filter

namespace Statement

variable {s : Statement}

theorem params_eq : s.params = (s.filter.map Filter.values).getD [] := by
  unfold params fragment condition
  cases s.filter with
  | none => rfl
  | some e =>
    change Fragment.params (e.fragment ++ [.text s.tail]) = e.values
    rw [Fragment.params_append, Filter.params_fragment]
    exact List.append_nil _

theorem head_listClause {word : Text} {entries : List Text} :
    ∀ c ∈ (listClause (' ' :: word) entries).head?, c = ' ' := by
  unfold listClause
  split <;> simp

theorem head_numberClause {word : Text} {n : Option Nat} :
    ∀ c ∈ (numberClause (' ' :: word) n).head?, c = ' ' := by
  unfold numberClause
  split <;> simp

/-- What follows the condition is set off by a space. -/
theorem head_tail : ∀ c ∈ s.tail.head?, c = ' ' := by
  intro c hc
  simp only [tail, List.head?_append, Option.mem_def, Option.or_eq_some_iff] at hc
  rcases hc with ((hc | ⟨_, hc⟩) | ⟨_, hc⟩) | ⟨_, hc⟩
  · exact head_listClause c hc
  · exact head_listClause c hc
  · exact head_numberClause c hc
  · exact head_numberClause c hc

/-- A statement whose own texts hold no placeholder has one for every parameter, numbered from
one. -/
theorem placeholders_sql {style : PlaceholderStyle} (hhead : s.head.all Text.isPlain = true)
    (hfilter : ∀ e ∈ s.filter, ∀ field ∈ e.fields, field.all Text.isPlain = true)
    (htail : s.tail.all Text.isPlain = true) :
    Text.placeholders (s.sql style) =
      (List.range' 1 s.params.length).map style.placeholder := by
  have hend : ∀ n, Text.placeholders (Fragment.renderFrom style n [.text s.tail]) = [] :=
    fun _ => Fragment.placeholders_text htail
  have hset : ∀ n, ∀ c ∈ (Fragment.renderFrom style n [.text s.tail]).head?,
      c.isDigit = false := by
    intro n c hc
    rw [Fragment.renderFrom, Fragment.renderFrom, List.append_nil] at hc
    rw [head_tail c hc]
    decide
  rw [sql, Text.placeholders_collapse, Fragment.render, fragment, List.cons_append,
    Fragment.placeholders_text hhead, params_eq]
  unfold condition
  cases hf : s.filter with
  | none => exact hend 1
  | some e =>
    dsimp only
    rw [List.cons_append, Fragment.placeholders_text (by decide),
      Filter.placeholders_fragment (hfilter e hf) hset, hend, List.append_nil]
    exact congrArg (fun n => (List.range' 1 n).map _) e.length_values.symm

end Statement

/-- A directive has the last value of its name, unless that is blank. -/
theorem Params.directives_eq_some {p : Params} {d : Directive} {value : Text} :
    p.directives d = some value ↔ p.get? d.key = some value ∧ value.isAllBlank = false := by
  simp [directives, Option.filter_eq_some_iff]

theorem Params.directives_eq_none {p : Params} {d : Directive} :
    p.directives d = none ↔ ∀ value, p.get? d.key = some value → value.isAllBlank = true := by
  simp [directives, Option.filter_eq_none_iff]

/-- Question marks and dollar signs in the texts of a statement come from the schema. -/
theorem Schema.admits_marks (s : Schema) :
    Admits (fun c => c = '?' ∨ c = '$' → s.Mentions c) s where
  sql c h := by
    rintro (rfl | rfl)
    · exact absurd h (by decide)
    · exact absurd h (by decide)
  schema _ h _ := h

theorem Schema.admits_plain {s : Schema} (hq : ¬ s.Mentions '?') (hd : ¬ s.Mentions '$') :
    Admits (fun c => Text.isPlain c = true) s where
  sql _ h := Text.isPlain_of (by decide) (by decide) h
  schema c h := by
    rw [Text.isPlain, Bool.and_eq_true, bne_iff_ne, bne_iff_ne]
    exact ⟨fun hc => hq (hc ▸ h), fun hc => hd (hc ▸ h)⟩

theorem PlaceholderStyle.map_placeholder (style : PlaceholderStyle) (n : Nat) :
    (List.range' 1 n).map style.placeholder = match style with
      | .mysql => List.replicate n ['?']
      | .postgres => (List.range n).map fun i => '$' :: Text.ofNat (i + 1) := by
  cases style with
  | mysql =>
    change (List.range' 1 n).map (fun _ => ['?']) = _
    rw [List.map_const', List.length_range']
  | postgres =>
    rw [List.range'_eq_map_range, List.map_map]
    refine List.map_congr_left fun i _ => ?_
    rw [Function.comp_apply, Nat.add_comm]
    rfl

namespace Options.Stages

variable {o : Options} {given : Directives} (s : o.Stages given)

/-- The parameters are the literals of the filter, one for each comparison. -/
theorem params_of_filter {value : Text} (hg : given .filter = some value) :
    s.statement.params = (Lexer.tokenize value).filterMap (fun t => t.kind.literal?) ∧
      ∃ e, Filter.parse value = .ok e ∧ s.statement.params.length = e.paramCount := by
  obtain ⟨e, he, hf⟩ := s.filter_given hg
  have hparams : s.statement.params = e.values := by
    rw [Statement.params_eq]
    change (s.filter.map Filter.values).getD [] = _
    rw [hf]
    exact Filter.values_mapFields _ e
  obtain ⟨d, n, hd, _, _⟩ := (Filter.parse_eq_ok value e).mp he
  refine ⟨?_, e, he, by rw [hparams, e.length_values]⟩
  rw [hparams, ← hd.literals_eq, Lexer.tokenize, List.filterMap_append, List.filterMap_map]
  exact (List.append_nil _).symm

theorem text_of_no_filter (hg : given .filter = none) :
    s.statement.fragment = [.text s.statement.head, .text s.statement.tail] := by
  have hf : s.statement.filter = none := s.filter_absent hg
  rw [Statement.fragment, Statement.condition, hf]
  rfl

theorem placeholders_sql (hq : ¬ o.schema.Mentions '?') (hd : ¬ o.schema.Mentions '$') :
    Text.placeholders (s.statement.sql o.style) =
      (List.range' 1 s.statement.params.length).map o.style.placeholder := by
  have plain := Schema.admits_plain hq hd
  refine Statement.placeholders_sql (List.all_eq_true.mpr (s.head_over plain)) ?_
    (List.all_eq_true.mpr (s.tail_over plain))
  exact fun e he field hf => List.all_eq_true.mpr (s.filter_over plain.toNames he field hf)

end Options.Stages

/-- The parameters are the literals of the filter from left to right, one for each comparison, and
the text has one placeholder for each of them, in the same order. Without a filter there are
neither. -/
theorem params_literals {o : Options} {p : Params} {q : Query} (h : compileParams o p = .ok q) :
    (∀ f, p.get? Directive.filter.key = some f → f.isAllBlank = false →
      q.params = (Lexer.tokenize f).filterMap (fun t => t.kind.literal?) ∧
      ∃ e, Filter.parse f = .ok e ∧ q.params.length = e.paramCount) ∧
    ((∀ f, p.get? Directive.filter.key = some f → f.isAllBlank = true) →
      q.params = [] ∧ (∀ c ∈ q.sql, c = '?' ∨ c = '$' → o.schema.Mentions c) ∧
      ∃ s, q = .ofStatement o.style s ∧ ∀ v, .parameter v ∉ s.fragment) ∧
    (¬ o.schema.Mentions '?' → ¬ o.schema.Mentions '$' →
      Text.placeholders q.sql = match o.style with
        | .mysql => List.replicate q.params.length ['?']
        | .postgres => (List.range q.params.length).map fun i => '$' :: Text.ofNat (i + 1)) := by
  obtain ⟨st, hst, rfl⟩ := compileParams_eq_ok h
  obtain ⟨stages, rfl⟩ := Options.statement_eq_ok hst
  refine ⟨fun f hf hb => ?_, fun hb => ?_, fun hq hd => ?_⟩
  · exact stages.params_of_filter (Params.directives_eq_some.mpr ⟨hf, hb⟩)
  · have ht := stages.text_of_no_filter (Params.directives_eq_none.mpr hb)
    refine ⟨congrArg Fragment.params ht, fun c hc hm => ?_, _, rfl, by simp [ht]⟩
    rcases Text.mem_collapse hc with rfl | ⟨hc, _⟩
    · exact absurd hm (by decide)
    · rw [ht, Fragment.render, Fragment.renderFrom, Fragment.renderFrom, Fragment.renderFrom,
        List.append_nil] at hc
      rcases List.mem_append.mp hc with hc | hc
      · exact stages.head_over o.schema.admits_marks c hc hm
      · exact stages.tail_over o.schema.admits_marks c hc hm
  · change Text.placeholders (stages.statement.sql o.style) = _
    rw [stages.placeholders_sql hq hd, PlaceholderStyle.map_placeholder]
    rfl

/-- A question mark inside a literal is no placeholder, and a negated group keeps the order. -/
theorem params_literals_orders :
    ∃ q, compileParams .orders
        ⟨[("$filter".toList, "city ne null and not (name eq 'a?' or total gt 3)".toList)]⟩ =
        .ok q ∧
      q.params = [.null, .text "a?".toList, .int 3] ∧
      Text.placeholders q.sql = ["$1".toList, "$2".toList, "$3".toList] := by
  have h : compileParams .orders
      ⟨[("$filter".toList, "city ne null and not (name eq 'a?' or total gt 3)".toList)]⟩ = .ok
      { sql := ("SELECT * FROM orders o LEFT JOIN customers c ON c.id = o.customer AND " ++
          "c.kind <> 'guest' WHERE (c.city <> $1 AND NOT (c.name = $2 OR o.total > $3))").toList
        params := [.null, .text "a?".toList, .int 3] } := by decide +kernel
  obtain ⟨literals, _, placeholders⟩ := params_literals h
  obtain ⟨hparams, _⟩ := literals _ (by rfl) (by decide +kernel)
  refine ⟨_, h, hparams.trans (by decide +kernel), ?_⟩
  exact (placeholders (by decide +kernel) (by decide +kernel)).trans (by decide +kernel)

end RequestSql
