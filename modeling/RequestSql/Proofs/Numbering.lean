import RequestSql.Proofs.Alphabet

namespace RequestSql

namespace Text

def numberFrom : Nat → Text → Text
  | _, [] => []
  | n, c :: t => if c = '?' then '$' :: ofNat n ++ numberFrom (n + 1) t else c :: numberFrom n t

/-- Puts a dollar sign and `k` in the place of the `k`-th question mark, counted from one. -/
def numbered (t : Text) : Text :=
  numberFrom 1 t

variable {c : Char} {n : Nat} {t u : Text}

theorem numberFrom_mark : numberFrom n ('?' :: t) = ('$' :: ofNat n) ++ numberFrom (n + 1) t := by
  rw [numberFrom, if_pos rfl]

theorem numberFrom_cons (hc : c ≠ '?') : numberFrom n (c :: t) = c :: numberFrom n t := by
  rw [numberFrom, if_neg hc]

theorem numberFrom_append (ht : '?' ∉ t) : numberFrom n (t ++ u) = t ++ numberFrom n u := by
  induction t with
  | nil => rfl
  | cons c t ih =>
    obtain ⟨hc, ht⟩ := not_or.mp (mt List.mem_cons.mpr ht)
    rw [List.cons_append, numberFrom_cons (Ne.symm hc), ih ht, List.cons_append]

theorem ne_mark_of_isBlank (h : isBlank c = true) : c ≠ '?' := by
  rintro rfl
  revert h
  decide

theorem isBlank_number (n : Nat) : ∀ c ∈ '$' :: ofNat n, isBlank c = false := by
  intro c hc
  rcases List.mem_cons.mp hc with rfl | hc
  · decide
  · have hdigit : c.isDigit = true := Nat.isDigit_of_mem_toDigits (by omega) (by omega) hc
    rw [← Bool.not_eq_true]
    intro hb
    rw [isDigit_of_isBlank hb] at hdigit
    cases hdigit

theorem isAllBlank_numberFrom : (numberFrom n t).isAllBlank = t.isAllBlank := by
  induction t generalizing n with
  | nil => rfl
  | cons c t ih =>
    by_cases hc : c = '?'
    · subst hc
      rw [numberFrom_mark]
      rfl
    · rw [numberFrom_cons hc]
      exact congrArg (isBlank c && ·) ih

/-- Numbering leaves white space where it is. -/
theorem gap_numberFrom : gap (numberFrom n t) = gap t := by
  have hhead : (numberFrom n t).head?.any isBlank = t.head?.any isBlank := by
    cases t with
    | nil => rfl
    | cons c t =>
      by_cases hc : c = '?'
      · subst hc
        rw [numberFrom_mark]
        rfl
      · rw [numberFrom_cons hc]
        rfl
  rw [gap, hhead, isAllBlank_numberFrom, gap]

theorem numberFrom_gap : numberFrom n (gap t ++ u) = gap t ++ numberFrom n u := by
  apply numberFrom_append
  unfold gap
  split <;> decide

/-- A text can be numbered before it is collapsed or after it. -/
theorem collapse_numberFrom : collapse (numberFrom n t) = numberFrom n (collapse t) := by
  induction t generalizing n with
  | nil => rfl
  | cons c t ih =>
    cases hb : isBlank c with
    | true =>
      rw [numberFrom_cons (ne_mark_of_isBlank hb), collapse_cons_blank hb, collapse_cons_blank hb,
        ih]
    | false =>
      have hword : collapse (c :: t) = c :: (gap t ++ collapse t) :=
        collapse_word_append (w := [c]) (by simp [hb]) (by simp) t
      rw [hword]
      by_cases hc : c = '?'
      · subst hc
        rw [numberFrom_mark, collapse_word_append (isBlank_number n) (by simp), gap_numberFrom, ih,
          numberFrom_mark, numberFrom_gap]
      · have hnumbered := collapse_word_append (w := [c]) (by simp [hb]) (by simp) (numberFrom n t)
        rw [numberFrom_cons hc, numberFrom_cons hc, numberFrom_gap, ← ih, ← gap_numberFrom (n := n)]
        exact hnumbered

end Text

/-- Numbering the placeholders of a text is what the other style does, where the text around them
has no question mark. -/
theorem Fragment.numberFrom_renderFrom {f : Fragment} {n : Nat}
    (h : ∀ t, .text t ∈ f → '?' ∉ t) :
    Text.numberFrom n (f.renderFrom .mysql n) = f.renderFrom .postgres n := by
  induction f generalizing n with
  | nil => rfl
  | cons piece f ih =>
    have hrest := fun n => ih (n := n) fun t ht => h t (List.mem_cons_of_mem _ ht)
    cases piece with
    | text t =>
      rw [renderFrom, Text.numberFrom_append (h t List.mem_cons_self), hrest, renderFrom]
    | parameter v =>
      change Text.numberFrom n ('?' :: renderFrom .mysql (n + 1) f) = _
      rw [Text.numberFrom_mark, hrest]
      rfl

theorem Statement.sql_numbered {s : Statement} (h : ∀ t, .text t ∈ s.fragment → '?' ∉ t) :
    s.sql .postgres = Text.numbered (s.sql .mysql) := by
  rw [Statement.sql, Statement.sql, Text.numbered, ← Text.collapse_numberFrom]
  exact congrArg Text.collapse (Fragment.numberFrom_renderFrom h).symm

theorem Schema.admits_unmarked {s : Schema} (h : ¬ s.Mentions '?') : Admits (· ≠ '?') s where
  sql c hc := by
    rintro rfl
    exact absurd hc (by decide)
  schema c hc := by
    rintro rfl
    exact h hc

/-- The two styles fail alike, or they have the same parameters and the texts differ by the
numbering of the placeholders alone. -/
theorem styles_agree (table : Text) (aliasName : Option Text) (schema : Schema) (p : Params) :
    (∃ e, compileParams ⟨table, aliasName, schema, .mysql⟩ p = .error e ∧
      compileParams ⟨table, aliasName, schema, .postgres⟩ p = .error e) ∨
    ∃ plain dollar, compileParams ⟨table, aliasName, schema, .mysql⟩ p = .ok plain ∧
      compileParams ⟨table, aliasName, schema, .postgres⟩ p = .ok dollar ∧
      plain.params = dollar.params ∧
      (¬ schema.Mentions '?' → dollar.sql = Text.numbered plain.sql) := by
  -- The style has no part in the statement, only in its text.
  have hstyle : ∀ style, compileParams ⟨table, aliasName, schema, style⟩ p =
      (Options.statement ⟨table, aliasName, schema, .mysql⟩ p.directives >>= fun s =>
        .ok (.ofStatement style s)) := fun _ => rfl
  rw [hstyle .mysql, hstyle .postgres]
  cases hs : Options.statement ⟨table, aliasName, schema, .mysql⟩ p.directives with
  | error e => exact .inl ⟨e, rfl, rfl⟩
  | ok s =>
    have hsql : ¬ schema.Mentions '?' → s.sql .postgres = Text.numbered (s.sql .mysql) := by
      intro hm
      obtain ⟨stages, rfl⟩ := Options.statement_eq_ok hs
      apply Statement.sql_numbered
      intro t ht hmark
      exact stages.statement_over (Schema.admits_unmarked hm) t ht '?' hmark rfl
    exact .inr ⟨.ofStatement .mysql s, .ofStatement .postgres s, rfl, rfl, rfl, hsql⟩

/-- Question marks are numbered in the order in which they stand in the text. -/
theorem styles_agree_orders :
    ∃ plain dollar,
      compileParams { Options.orders with style := .mysql }
        ⟨[("$filter".toList, "not (total gt 3 or city eq 'a?')".toList)]⟩ = .ok plain ∧
      compileParams { Options.orders with style := .postgres }
        ⟨[("$filter".toList, "not (total gt 3 or city eq 'a?')".toList)]⟩ = .ok dollar ∧
      plain.params = dollar.params ∧ dollar.sql = Text.numbered plain.sql ∧
      dollar.sql = ("SELECT * FROM orders o LEFT JOIN customers c ON c.id = o.customer AND " ++
        "c.kind <> 'guest' WHERE NOT (o.total > $1 OR c.city = $2)").toList := by
  have htext : (compileParams { Options.orders with style := .postgres }
      ⟨[("$filter".toList, "not (total gt 3 or city eq 'a?')".toList)]⟩).map Query.sql = .ok
      ("SELECT * FROM orders o LEFT JOIN customers c ON c.id = o.customer AND " ++
        "c.kind <> 'guest' WHERE NOT (o.total > $1 OR c.city = $2)").toList := by
    decide +kernel
  rcases styles_agree Options.orders.table Options.orders.aliasName Options.orders.schema
    ⟨[("$filter".toList, "not (total gt 3 or city eq 'a?')".toList)]⟩ with
    ⟨e, _, h⟩ | ⟨plain, dollar, hp, hd, hparams, hsql⟩
  · change compileParams { Options.orders with style := .postgres } _ = _ at h
    rw [h] at htext
    cases htext
  · change compileParams { Options.orders with style := .postgres } _ = _ at hd
    rw [hd] at htext
    exact ⟨plain, dollar, hp, hd, hparams, hsql (by decide +kernel), Except.ok.inj htext⟩

end RequestSql
