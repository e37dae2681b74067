import RequestSql.Proofs.Expansions
import RequestSql.Proofs.Tiling

namespace RequestSql.Expand

/-- A text that closes the `d` parentheses open before it and all of its own, and no others. -/
structure Closes (d : Nat) (t : Text) : Prop where
  covered : ∀ u, u <+: t → u.count ')' ≤ u.count '(' + d
  total : t.count ')' = t.count '(' + d

/-- A text of one entry: it closes what is open, and no comma in it stands outside parentheses. -/
structure Unbroken (d : Nat) (t : Text) : Prop extends Closes d t where
  commas : ∀ u v, t = u ++ ',' :: v → u.count ')' ≠ u.count '(' + d

/-- The number of commas before which as many parentheses are closed as are opened, the `d` that are
open at the start included. -/
def outerCommas (d : Nat) (t : Text) : Nat :=
  (List.range t.length).countP fun i =>
    t[i]? == some ',' && (t.take i).count ')' == (t.take i).count '(' + d

section Nesting

variable {c : Char} {d d' : Nat} {t u : Text} {x : Imbalance}

/-- A character moves the depth as it moves the numbers of parentheses. -/
theorem count_of_nest (h : nest c d = .ok d') (u : Text) :
    (c :: u).count ')' + (u.count '(' + d') = (c :: u).count '(' + d + u.count ')' := by
  unfold nest at h
  split at h
  · rename_i hc
    subst hc
    cases h
    simp
    omega
  split at h
  · rename_i hc
    subst hc
    split at h
    · cases h
    · cases h
      simp
      omega
  · rename_i hopen hclose
    cases h
    simp [hopen, hclose]
    omega

theorem nest_eq_error (h : nest c d = .error x) : c = ')' ∧ d = 0 ∧ x = .unopened := by
  unfold nest at h
  split at h
  · cases h
  split at h
  · rename_i hc
    split at h
    · rename_i hd
      cases h
      exact ⟨hc, hd, rfl⟩
    · cases h
  · cases h

theorem nest_comma (d : Nat) : nest ',' d = .ok d := by
  simp [nest]

theorem covered_cons (h : nest c d = .ok d') :
    (∀ u, u <+: c :: t → u.count ')' ≤ u.count '(' + d) ↔
      ∀ u, u <+: t → u.count ')' ≤ u.count '(' + d' := by
  constructor
  · intro hall u hu
    have hcons := hall (c :: u) (List.cons_prefix_cons.mpr ⟨rfl, hu⟩)
    have hcount := count_of_nest h u
    omega
  · intro hall u hu
    rcases List.prefix_cons_iff.mp hu with rfl | ⟨v, rfl, hv⟩
    · simp
    · have hrest := hall v hv
      have hcount := count_of_nest h v
      omega

theorem closes_cons (h : nest c d = .ok d') : Closes d (c :: t) ↔ Closes d' t := by
  have hcount := count_of_nest h t
  constructor
  · intro hc
    have htotal := hc.total
    exact ⟨(covered_cons h).mp hc.covered, by omega⟩
  · intro hc
    have htotal := hc.total
    exact ⟨(covered_cons h).mpr hc.covered, by omega⟩

theorem unbroken_cons (h : nest c d = .ok d') (hc : ¬(c = ',' ∧ d = 0)) :
    Unbroken d (c :: t) ↔ Unbroken d' t := by
  constructor
  · rintro ⟨closes, commas⟩
    refine ⟨(closes_cons h).mp closes, fun u v ht => ?_⟩
    have hcons := commas (c :: u) v (by rw [ht, List.cons_append])
    have hcount := count_of_nest h u
    omega
  · rintro ⟨closes, commas⟩
    refine ⟨(closes_cons h).mpr closes, fun u v ht => ?_⟩
    cases u with
    | nil =>
      obtain ⟨rfl, _⟩ := List.cons_eq_cons.mp ht
      simpa [eq_comm] using hc
    | cons b u =>
      obtain ⟨rfl, ht'⟩ := List.cons_eq_cons.mp ht
      have hrest := commas u v ht'
      have hcount := count_of_nest h u
      omega

theorem unbroken_nil : Unbroken 0 [] := by
  refine ⟨⟨fun u hu => ?_, rfl⟩, fun u v h => ?_⟩
  · rw [List.prefix_nil.mp hu]
    exact Nat.le_refl _
  · simp at h

theorem outerCommas_cons (h : nest c d = .ok d') :
    outerCommas d (c :: t) = outerCommas d' t + if c = ',' ∧ d = 0 then 1 else 0 := by
  -- past the character itself, the places and what is closed before them move together
  have hplace (i : Nat) : ((c :: t)[i + 1]? == some ',' &&
        ((c :: t).take (i + 1)).count ')' == ((c :: t).take (i + 1)).count '(' + d) =
      (t[i]? == some ',' && (t.take i).count ')' == (t.take i).count '(' + d') := by
    have hcount := count_of_nest h (t.take i)
    rw [List.getElem?_cons_succ, List.take_succ_cons]
    congr 1
    rw [Bool.eq_iff_iff, beq_iff_eq, beq_iff_eq]
    omega
  have hfirst : ((c :: t)[0]? == some ',' &&
      ((c :: t).take 0).count ')' == ((c :: t).take 0).count '(' + d) = true ↔
        c = ',' ∧ d = 0 := by
    simp [@eq_comm Nat 0]
  rw [outerCommas, List.length_cons, List.range_succ_eq_map, List.countP_cons, List.countP_map,
    outerCommas]
  congr 1
  · exact List.countP_congr fun i _ => by rw [← hplace]; rfl
  · simp only [hfirst]

end Nesting

inductive Outcome (d : Nat) (t : Text) : Except Imbalance (List Text) → Prop where
  | unopened {u : Text} (front : u <+: t) (more : u.count '(' + d < u.count ')') :
      Outcome d t (.error .unopened)
  | unclosed (covered : ∀ u, u <+: t → u.count ')' ≤ u.count '(' + d)
      (more : t.count ')' < t.count '(' + d) : Outcome d t (.error .unclosed)
  | entries {first : Text} {rest : List Text} (closes : Closes d t) (unbroken : Unbroken d first)
      (others : ∀ u ∈ rest, Unbroken 0 u) (number : rest.length = outerCommas d t) :
      Outcome d t (.ok (first :: rest))

section Splitting

variable {c : Char} {d d' : Nat} {t : Text} {x : Imbalance} {entries : List Text}
  {outcome : Except Imbalance (List Text)}

/-- A text stays refused with one more character in front of it. -/
theorem Outcome.cons_error (hnest : nest c d = .ok d') (h : Outcome d' t (.error x)) :
    Outcome d (c :: t) (.error x) := by
  cases h with
  | @unopened u front more =>
    refine .unopened (List.cons_prefix_cons.mpr ⟨rfl, front⟩) ?_
    have hcount := count_of_nest hnest u
    omega
  | unclosed covered more =>
    refine .unclosed ((covered_cons hnest).mpr covered) ?_
    have hcount := count_of_nest hnest t
    omega

/-- A comma outside parentheses ends an empty entry and begins another one. -/
theorem Outcome.comma (h : Outcome 0 t outcome) :
    Outcome 0 (',' :: t) (outcome.map ([] :: ·)) := by
  have hnest := nest_comma 0
  cases outcome with
  | error x => exact h.cons_error hnest
  | ok entries =>
    cases h with
    | entries closes unbroken others number =>
      refine .entries ((closes_cons hnest).mpr closes) unbroken_nil
        (List.forall_mem_cons.mpr ⟨unbroken, others⟩) ?_
      rw [List.length_cons, number, outerCommas_cons hnest, if_pos ⟨rfl, rfl⟩]

/-- Any other character goes to the first entry. -/
theorem Outcome.attach (hnest : nest c d = .ok d') (hc : ¬(c = ',' ∧ d = 0))
    (h : Outcome d' t outcome) : Outcome d (c :: t) (outcome.map (attach c)) := by
  cases outcome with
  | error x => exact h.cons_error hnest
  | ok entries =>
    cases h with
    | entries closes unbroken others number =>
      refine .entries ((closes_cons hnest).mpr closes) ((unbroken_cons hnest hc).mpr unbroken)
        others ?_
      rw [number, outerCommas_cons hnest, if_neg hc, Nat.add_zero]

theorem outcome_nil (d : Nat) : Outcome d [] (splitFrom d []) := by
  cases d with
  | zero => exact .entries unbroken_nil.toCloses unbroken_nil (by simp) rfl
  | succ d =>
    refine .unclosed (fun u hu => ?_) (by simp)
    rw [List.prefix_nil.mp hu]
    simp

theorem outcome_splitFrom (d : Nat) (t : Text) : Outcome d t (splitFrom d t) := by
  induction t generalizing d with
  | nil => exact outcome_nil d
  | cons c t ih =>
    by_cases hc : c = ',' ∧ d = 0
    · obtain ⟨rfl, rfl⟩ := hc
      rw [splitFrom_comma]
      exact (ih 0).comma
    · rw [splitFrom_cons hc]
      cases hnest : nest c d with
      | error x =>
        obtain ⟨rfl, rfl, rfl⟩ := nest_eq_error hnest
        exact .unopened (u := [')']) (List.cons_prefix_cons.mpr ⟨rfl, List.nil_prefix⟩) (by simp)
      | ok d' => exact (ih d').attach hnest hc

theorem Outcome.unopened_iff (h : Outcome d t outcome) :
    outcome = .error .unopened ↔ ∃ u, u <+: t ∧ u.count '(' + d < u.count ')' := by
  cases h with
  | @unopened u front more => exact iff_of_true rfl ⟨u, front, more⟩
  | unclosed covered _ =>
    exact iff_of_false nofun fun ⟨u, front, more⟩ => Nat.not_lt.mpr (covered u front) more
  | entries closes _ _ _ =>
    exact iff_of_false nofun fun ⟨u, front, more⟩ => Nat.not_lt.mpr (closes.covered u front) more

theorem Outcome.error_iff (h : Outcome d t outcome) : (∃ x, outcome = .error x) ↔
    (∃ u, u <+: t ∧ u.count '(' + d < u.count ')') ∨ t.count '(' + d ≠ t.count ')' := by
  cases h with
  | @unopened u front more => exact iff_of_true ⟨_, rfl⟩ (.inl ⟨u, front, more⟩)
  | unclosed _ more => exact iff_of_true ⟨_, rfl⟩ (.inr (Nat.ne_of_gt more))
  | entries closes _ _ _ =>
    refine iff_of_false (fun ⟨x, hx⟩ => by cases hx) ?_
    rintro (⟨u, front, more⟩ | hne)
    · exact Nat.not_lt.mpr (closes.covered u front) more
    · exact hne closes.total.symm

/-- An entry is passed over as a whole. -/
theorem Unbroken.passes (h : Unbroken d t) : Passes d t 0 := by
  induction t generalizing d with
  | nil =>
    obtain rfl : d = 0 := by simpa using h.total.symm
    exact fun t piece pieces h => h
  | cons c t ih =>
    have hc : ¬(c = ',' ∧ d = 0) := by
      rintro ⟨rfl, rfl⟩
      exact h.commas [] t rfl rfl
    cases hnest : nest c d with
    | error x =>
      obtain ⟨rfl, rfl, _⟩ := nest_eq_error hnest
      have hcovered := h.covered [')'] (List.cons_prefix_cons.mpr ⟨rfl, List.nil_prefix⟩)
      simp at hcovered
    | ok d' => exact (passes_of_nest hnest hc).append (ih ((unbroken_cons hnest hc).mp h))

/-- The entries are the only ones that make up the text. -/
theorem split_eq_ok_iff : split t = .ok entries ↔
    entries ≠ [] ∧ [','].intercalate entries = t ∧ ∀ u ∈ entries, Unbroken 0 u := by
  constructor
  · intro h
    obtain ⟨hne, hjoined⟩ := splitFrom_joined h
    have houtcome := outcome_splitFrom 0 t
    rw [show splitFrom 0 t = .ok entries from h] at houtcome
    cases houtcome with
    | entries _ unbroken others _ =>
      exact ⟨hne, hjoined, List.forall_mem_cons.mpr ⟨unbroken, others⟩⟩
  · rintro ⟨hne, rfl, hall⟩
    exact split_intercalate hne fun u hu => (hall u hu).passes

end Splitting

/-- One pass over a text: the entries found, the number of open parentheses, and the byte offset at
which the current entry begins. -/
structure Sweep where
  entries : List Text := []
  depth : Nat := 0
  start : Nat := 0

namespace Sweep

/-- The pass after the character at a byte offset. A comma outside parentheses is one byte long. There
is no answer if an entry cannot be cut out of the text. -/
def step? (t : Text) (s : Sweep) (offset : Nat) (c : Char) : Option (Except Imbalance Sweep) :=
  if c = ',' ∧ s.depth = 0 then
    (t.slice? s.start offset).map fun entry =>
      .ok { s with entries := s.entries ++ [entry], start := offset + 1 }
  else some ((nest c s.depth).map fun depth => { s with depth })

def run? (t : Text) : Sweep → Nat → Text → Option (Except Imbalance (List Text))
  | s, offset, [] =>
    if s.depth = 0 then (t.slice? s.start offset).map fun entry => .ok (s.entries ++ [entry])
    else some (.error .unclosed)
  | s, offset, c :: rest =>
    (s.step? t offset c).bind fun
      | .ok s' => run? t s' (offset + c.utf8Size) rest
      | .error x => some (.error x)

def split? (t : Text) : Option (Except Imbalance (List Text)) :=
  run? t {} 0 t

/-- A pass that has read `before` with its entries, and `current` of the entry after them. -/
structure Stands (t before current rest : Text) (offset : Nat) (s : Sweep) : Prop where
  text : t = before ++ current ++ rest
  start : s.start = Text.byteSize before
  offset : offset = Text.byteSize (before ++ current)

variable {t before current rest : Text} {offset : Nat} {s : Sweep} {c : Char}

theorem Stands.slice (h : Stands t before current rest offset s) :
    t.slice? s.start offset = some current := by
  rw [h.text, h.start, h.offset]
  exact Text.slice?_append before current rest

/-- A comma between entries is left behind with the entry before it. -/
theorem Stands.comma (h : Stands t before current (',' :: rest) offset s) :
    Stands t (before ++ current ++ [',']) [] rest (offset + 1)
      { s with entries := s.entries ++ [current], start := offset + 1 } where
  text := by rw [h.text]; simp
  start := by rw [Text.byteSize_append, ← h.offset]; rfl
  offset := by rw [List.append_nil, Text.byteSize_append, ← h.offset]; rfl

theorem Stands.attach (h : Stands t before current (c :: rest) offset s) (depth : Nat) :
    Stands t before (current ++ [c]) rest (offset + c.utf8Size) { s with depth } where
  text := by rw [h.text]; simp
  start := h.start
  offset := by rw [← List.append_assoc, Text.byteSize_append, ← h.offset]; rfl

theorem modifyHead_attach {entries : List Text} (hne : entries ≠ []) :
    (attach c entries).modifyHead (current ++ ·) = entries.modifyHead (current ++ [c] ++ ·) := by
  cases entries with
  | nil => exact absurd rfl hne
  | cons first others => simp [attach]

/-- Wherever a pass stands, it goes on as splitting does, with what it has read of the current entry in
front. -/
theorem Stands.run_eq (h : Stands t before current rest offset s) :
    run? t s offset rest = some ((splitFrom s.depth rest).map fun entries =>
      s.entries ++ entries.modifyHead (current ++ ·)) := by
  induction rest generalizing before current offset s with
  | nil =>
    rw [run?, h.slice]
    split
    · rename_i hd
      rw [hd]
      simp [splitFrom, Except.map]
    · rename_i hd
      obtain ⟨d, hd⟩ := Nat.exists_eq_succ_of_ne_zero hd
      rw [hd]
      rfl
  | cons c rest ih =>
    rw [run?, step?]
    by_cases hc : c = ',' ∧ s.depth = 0
    · rw [if_pos hc, h.slice]
      obtain ⟨rfl, hd⟩ := hc
      have hrest := ih h.comma
      simp only [Option.map_some, Option.bind_some]
      rw [show ','.utf8Size = 1 from rfl, hrest, hd, splitFrom_comma]
      cases splitFrom 0 rest with
      | error x => rfl
      | ok entries => cases entries <;> simp [Except.map, bind, Except.bind, pure, Except.pure]
    · rw [if_neg hc, splitFrom_cons hc]
      cases nest c s.depth with
      | error x => rfl
      | ok d =>
        have hrest := ih (h.attach d)
        simp only [Option.bind_some, Except.map]
        rw [hrest]
        cases hsplit : splitFrom d rest with
        | error x => simp [hsplit, Except.map, bind, Except.bind]
        | ok entries =>
          simp only [hsplit, Except.map, bind, Except.bind, pure, Except.pure]
          rw [modifyHead_attach (splitFrom_joined hsplit).1]

theorem split?_eq (t : Text) : split? t = some (split t) := by
  have h : Stands t [] [] t 0 {} := ⟨rfl, rfl, rfl⟩
  rw [split?, h.run_eq, split]
  cases hsplit : splitFrom 0 t with
  | error x => rfl
  | ok entries =>
    cases entries with
    | nil => rfl
    | cons first others => rfl

end Sweep

/-- A text is refused exactly if its parentheses do not match: some front of it closes more than it
opens, or as a whole it does not close as many as it opens. Otherwise its entries are the only ones that
joined by commas are the text, match their parentheses and have no comma outside them, and there is one
more of them than commas outside parentheses. A single pass over byte offsets gives the same answer. -/
theorem split_exact (t : Text) :
    ((∃ x, split t = .error x) ↔
      (∃ u, u <+: t ∧ u.count '(' < u.count ')') ∨ t.count '(' ≠ t.count ')') ∧
    (split t = .error .unopened ↔ ∃ u, u <+: t ∧ u.count '(' < u.count ')') ∧
    (∀ entries, split t = .ok entries ↔ entries ≠ [] ∧ [','].intercalate entries = t ∧
      ∀ u ∈ entries, Unbroken 0 u) ∧
    (∀ entries, split t = .ok entries → entries.length = outerCommas 0 t + 1) ∧
    Sweep.split? t = some (split t) := by
  have houtcome : Outcome 0 t (split t) := outcome_splitFrom 0 t
  refine ⟨houtcome.error_iff, houtcome.unopened_iff, fun entries => split_eq_ok_iff,
    fun entries h => ?_, Sweep.split?_eq t⟩
  rw [h] at houtcome
  cases houtcome with
  | entries _ _ _ number => rw [List.length_cons, number]

/-- Letters of more than one byte, an empty entry, and commas inside parentheses that stay. -/
theorem split_exact_nested :
    split "Maße(a,(b,c)),,é".toList = .ok ["Maße(a,(b,c))".toList, [], "é".toList] ∧
      outerCommas 0 "Maße(a,(b,c)),,é".toList + 1 = 3 ∧
      Unbroken 0 "Maße(a,(b,c))".toList ∧
      ∃ x, split "a),(b".toList = .error x := by
  have h : split "Maße(a,(b,c)),,é".toList =
      .ok ["Maße(a,(b,c))".toList, [], "é".toList] := by decide
  obtain ⟨_, _, hentries, hnumber, _⟩ := split_exact "Maße(a,(b,c)),,é".toList
  obtain ⟨_, _, hunbroken⟩ := (hentries _).mp h
  refine ⟨h, (hnumber _ h).symm, hunbroken _ List.mem_cons_self, ?_⟩
  exact (split_exact "a),(b".toList).1.mpr (.inl ⟨"a)".toList, by decide, by decide⟩)

end RequestSql.Expand
