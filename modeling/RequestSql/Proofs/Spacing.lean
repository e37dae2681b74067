import Mathlib.Data.List.Chain
import RequestSql.Text.Basic

namespace RequestSql.Text

section Splitting

variable {p : Char → Bool} {c : Char} {t u : Text}

theorem splitBy_eq_splitOnP (p : Char → Bool) (t : Text) : splitBy p t = t.splitOnP p := by
  induction t with
  | nil => rfl
  | cons c t ih =>
    rw [splitBy, List.splitOnP_cons_eq_if_modifyHead, ih]
    split
    · rfl
    · cases hs : t.splitOnP p with
      | nil => exact absurd hs (List.splitOnP_ne_nil p t)
      | cons piece pieces => rfl

theorem splitOn_ne_nil (sep : Char) (t : Text) : splitOn sep t ≠ [] := by
  rw [splitOn, splitBy_eq_splitOnP]
  exact List.splitOnP_ne_nil _ t

/-- Splitting takes away the separators and nothing else. -/
theorem flatten_splitBy (p : Char → Bool) (t : Text) :
    (splitBy p t).flatten = t.filter fun c => !p c := by
  induction t with
  | nil => rfl
  | cons c t ih =>
    rw [splitBy]
    split
    · rename_i hc
      rw [List.flatten_cons, List.nil_append, ih, List.filter_cons_of_neg (by simp [hc])]
    · rename_i hc
      rw [List.filter_cons_of_pos (by simp [hc]), ← ih]
      split
      · rename_i hs
        rw [hs]
        rfl
      · rename_i hs
        rw [hs]
        rfl

theorem mem_of_mem_splitBy (hu : u ∈ splitBy p t) (hc : c ∈ u) : c ∈ t ∧ p c = false := by
  have hf : c ∈ (splitBy p t).flatten := List.mem_flatten_of_mem hu hc
  rw [flatten_splitBy] at hf
  simpa using hf

theorem mem_splitBy_of_mem (hc : c ∈ t) (hp : p c = false) : ∃ u ∈ splitBy p t, c ∈ u := by
  apply List.mem_flatten.mp
  rw [flatten_splitBy]
  simp [hc, hp]

end Splitting

section Collapsing

variable {c : Char} {t w : Text}

theorem mem_words (hw : w ∈ words t) : w ≠ [] ∧ ∀ c ∈ w, c ∈ t ∧ isBlank c = false := by
  obtain ⟨hs, hne⟩ := List.mem_filter.mp hw
  refine ⟨?_, fun c hc => mem_of_mem_splitBy hs hc⟩
  rintro rfl
  simp at hne

theorem mem_intercalate {sep : Text} {ws : List Text} (h : c ∈ sep.intercalate ws) :
    c ∈ sep ∨ ∃ w ∈ ws, c ∈ w := by
  induction ws with
  | nil => simp at h
  | cons v ws ih =>
    cases ws with
    | nil => exact .inr ⟨v, List.mem_cons_self, by simpa using h⟩
    | cons w ws =>
      rw [List.intercalate_cons_cons, List.append_assoc] at h
      rcases List.mem_append.mp h with hv | h
      · exact .inr ⟨v, List.mem_cons_self, hv⟩
      · rcases List.mem_append.mp h with hs | h
        · exact .inl hs
        · rcases ih h with hs | ⟨u, hu, hc⟩
          · exact .inl hs
          · exact .inr ⟨u, List.mem_cons_of_mem _ hu, hc⟩

/-- Collapsing adds nothing but spaces. -/
theorem mem_collapse (h : c ∈ collapse t) : c = ' ' ∨ (c ∈ t ∧ isBlank c = false) := by
  rcases mem_intercalate h with hs | ⟨w, hw, hc⟩
  · exact .inl (List.mem_singleton.mp hs)
  · exact .inr ((mem_words hw).2 c hc)

structure Spaced (t : Text) : Prop where
  inside : t.IsChain fun a b => isBlank a = true → isBlank b = false
  first : ∀ c ∈ t.head?, isBlank c = false
  last : ∀ c ∈ t.getLast?, isBlank c = false

theorem spaced_word (h : ∀ c ∈ w, isBlank c = false) : Spaced w where
  inside := by
    induction w with
    | nil => exact .nil
    | cons c w ih =>
      have hw := ih fun d hd => h d (List.mem_cons_of_mem _ hd)
      refine List.isChain_cons.mpr ⟨fun d hd _ => ?_, hw⟩
      exact h d (List.mem_cons_of_mem _ (List.mem_of_mem_head? hd))
  first c hc := h c (List.mem_of_mem_head? hc)
  last c hc := h c (List.mem_of_mem_getLast? hc)

theorem Spaced.cons_word (ht : Spaced t) (hne : t ≠ []) (hw : ∀ c ∈ w, isBlank c = false)
    (hw₀ : w ≠ []) : Spaced (w ++ ' ' :: t) where
  inside := by
    refine (spaced_word hw).inside.append (List.isChain_cons.mpr ⟨?_, ht.inside⟩) ?_
    · intro d hd _
      exact ht.first d hd
    · intro a ha b _ hab
      rw [(spaced_word hw).last a ha] at hab
      cases hab
  first c hc := by
    rw [List.head?_append_of_ne_nil _ hw₀] at hc
    exact (spaced_word hw).first c hc
  last c hc := by
    rw [List.getLast?_append_of_ne_nil _ (by simp), List.getLast?_cons_of_ne_nil hne] at hc
    exact ht.last c hc

theorem spaced_words {ws : List Text} (h : ∀ w ∈ ws, w ≠ [] ∧ ∀ c ∈ w, isBlank c = false) :
    Spaced ([' '].intercalate ws) := by
  induction ws with
  | nil => exact spaced_word (by simp)
  | cons v ws ih =>
    obtain ⟨hv₀, hv⟩ := h v List.mem_cons_self
    cases ws with
    | nil => simpa using spaced_word hv
    | cons w ws =>
      rw [List.intercalate_cons_cons, List.append_assoc]
      refine (ih fun u hu => h u (List.mem_cons_of_mem _ hu)).cons_word ?_ hv hv₀
      have hw₀ := (h w (by simp)).1
      cases ws with
      | nil => simpa using hw₀
      | cons u ws => simp [hw₀]

theorem spaced_collapse (t : Text) : Spaced (collapse t) :=
  spaced_words fun _ hw => ⟨(mem_words hw).1, fun c hc => ((mem_words hw).2 c hc).2⟩

end Collapsing

section Scanning

variable {c : Char} {t w : Text}

/-- The space that goes between a word and the text after it: one, where white space and then
another word follow. -/
def gap (t : Text) : Text :=
  if t.head?.any isBlank && !t.isAllBlank then [' '] else []

theorem splitBy_cons_false {p : Char → Bool} (hc : p c = false) (t : Text) :
    splitBy p (c :: t) = (splitBy p t).modifyHead (c :: ·) := by
  rw [splitBy, if_neg (by simp [hc])]
  cases hs : splitBy p t with
  | nil =>
    rw [splitBy_eq_splitOnP] at hs
    exact absurd hs (List.splitOnP_ne_nil p t)
  | cons piece pieces => rfl

theorem splitBy_append {p : Char → Bool} (hw : ∀ c ∈ w, p c = false) (t : Text) :
    splitBy p (w ++ t) = (splitBy p t).modifyHead (w ++ ·) := by
  induction w with
  | nil => cases hs : splitBy p t <;> simp [hs]
  | cons c w ih =>
    have hrest := ih fun d hd => hw d (List.mem_cons_of_mem _ hd)
    rw [List.cons_append, splitBy_cons_false (hw c List.mem_cons_self), hrest,
      List.modifyHead_modifyHead]
    rfl

theorem words_cons_blank (hc : isBlank c = true) : words (c :: t) = words t := by
  rw [words, splitBy, if_pos hc]
  rfl

theorem words_eq_nil_iff : words t = [] ↔ t.isAllBlank = true := by
  rw [isAllBlank, List.all_eq_true]
  constructor
  · intro h c hc
    by_contra hb
    obtain ⟨u, hu, hcu⟩ := mem_splitBy_of_mem hc (Bool.not_eq_true _ ▸ hb)
    have hw : u ∈ words t := by
      refine List.mem_filter.mpr ⟨hu, ?_⟩
      cases u with
      | nil => cases hcu
      | cons => rfl
    rw [h] at hw
    cases hw
  · intro h
    apply List.eq_nil_iff_forall_not_mem.mpr
    intro w hw
    obtain ⟨hne, hchars⟩ := mem_words hw
    obtain ⟨c, hc⟩ := List.exists_mem_of_ne_nil w hne
    have hblank := h c (hchars c hc).1
    rw [(hchars c hc).2] at hblank
    cases hblank

theorem collapse_cons_blank (hc : isBlank c = true) : collapse (c :: t) = collapse t := by
  rw [collapse, words_cons_blank hc, collapse]

theorem words_append_blank (hw : ∀ c ∈ w, isBlank c = false) (hne : w ≠ [])
    (hc : isBlank c = true) : words (w ++ c :: t) = w :: words t := by
  rw [words, splitBy_append hw, splitBy, if_pos hc, List.modifyHead_cons, List.append_nil]
  simp [hne, words]

/-- A word grows where no white space follows it. -/
theorem words_append_word (hw : ∀ c ∈ w, isBlank c = false) (hc : isBlank c = false) :
    ∃ v vs, words (c :: t) = (c :: v) :: vs ∧ words (w ++ c :: t) = (w ++ c :: v) :: vs := by
  cases hs : splitBy isBlank t with
  | nil =>
    rw [splitBy_eq_splitOnP] at hs
    exact absurd hs (List.splitOnP_ne_nil _ t)
  | cons piece pieces =>
    refine ⟨piece, pieces.filter fun w => !w.isEmpty, ?_, ?_⟩
    · simp [words, splitBy_cons_false hc, hs]
    · simp [words, splitBy_append hw, splitBy_cons_false hc, hs]

theorem gap_cons_blank (hc : isBlank c = true) :
    gap (c :: t) = if words t = [] then [] else [' '] := by
  have hall : isAllBlank (c :: t) = isAllBlank t := by simp [isAllBlank, hc]
  by_cases h : words t = []
  · simp [gap, hc, hall, words_eq_nil_iff.mp h, h]
  · have hblank : isAllBlank t = false := by
      rw [← Bool.not_eq_true, ← words_eq_nil_iff]
      exact h
    simp [gap, hc, hall, hblank, h]

/-- A word at the front stays, and then the rest is collapsed. -/
theorem collapse_word_append (hw : ∀ c ∈ w, isBlank c = false) (hne : w ≠ []) (t : Text) :
    collapse (w ++ t) = w ++ (gap t ++ collapse t) := by
  cases t with
  | nil =>
    have hwords : words (w ++ []) = [w] := by
      rw [words, splitBy_append hw]
      simp [splitBy, hne]
    rw [collapse, hwords]
    simp [gap, collapse, words, splitBy]
  | cons c t =>
    cases hc : isBlank c with
    | true =>
      rw [collapse, words_append_blank hw hne hc, collapse_cons_blank hc, gap_cons_blank hc,
        collapse]
      cases words t with
      | nil => simp
      | cons v vs => simp
    | false =>
      obtain ⟨v, vs, hword, hgrown⟩ := words_append_word (t := t) hw hc
      have hgap : gap (c :: t) = [] := by simp [gap, hc]
      rw [hgap, List.nil_append, collapse, hgrown, collapse, hword]
      cases vs with
      | nil => simp
      | cons u us => simp

end Scanning

section Tidiness

/-- Words with one space between any two: a text that collapsing leaves as it is. -/
inductive Tidy : Text → Prop where
  | word {w : Text} (hne : w ≠ []) (hw : ∀ c ∈ w, isBlank c = false) : Tidy w
  | cons {w t : Text} (hne : w ≠ []) (hw : ∀ c ∈ w, isBlank c = false) (ht : Tidy t) :
    Tidy (w ++ ' ' :: t)

variable {t u : Text}

theorem Tidy.ne_nil (ht : Tidy t) : t ≠ [] := by
  cases ht with
  | word hne hw => exact hne
  | cons hne hw ht => simp

/-- Without a space between them, the last word of one text and the first of another are one. -/
theorem Tidy.append (ht : Tidy t) (hu : Tidy u) : Tidy (t ++ u) := by
  induction ht with
  | word hne hw =>
    cases hu with
    | word _ hv => exact .word (by simp [hne]) (List.forall_mem_append.mpr ⟨hw, hv⟩)
    | cons _ hv hu =>
      rw [← List.append_assoc]
      exact .cons (by simp [hne]) (List.forall_mem_append.mpr ⟨hw, hv⟩) hu
  | cons hne hw _ ih =>
    rw [List.append_assoc]
    exact .cons hne hw ih

theorem Tidy.space (ht : Tidy t) (hu : Tidy u) : Tidy (t ++ ' ' :: u) := by
  induction ht with
  | word hne hw => exact .cons hne hw hu
  | cons hne hw _ ih =>
    rw [List.append_assoc]
    exact .cons hne hw ih

theorem Tidy.collapse_eq (ht : Tidy t) : collapse t = t := by
  induction ht with
  | @word w hne hw =>
    have h := collapse_word_append hw hne []
    simpa [gap, collapse, words, splitBy] using h
  | @cons w t hne hw ht ih =>
    have hblank : isBlank ' ' = true := by decide
    have hwords : words t ≠ [] := by
      intro h
      rw [collapse, h] at ih
      exact ht.ne_nil ih.symm
    rw [collapse_word_append hw hne, gap_cons_blank hblank, if_neg hwords,
      collapse_cons_blank hblank, ih]
    rfl

theorem commaList_singleton (x : Text) : commaList [x] = x := by
  simp [commaList]

theorem commaList_cons_cons (x y : Text) (ys : List Text) :
    commaList (x :: y :: ys) = x ++ ',' :: ' ' :: commaList (y :: ys) := by
  simp [commaList]

theorem Tidy.commaList {entries : List Text} (hne : entries ≠ []) (h : ∀ t ∈ entries, Tidy t) :
    Tidy (commaList entries) := by
  induction entries with
  | nil => exact absurd rfl hne
  | cons t rest ih =>
    obtain ⟨ht, hrest⟩ := List.forall_mem_cons.mp h
    cases rest with
    | nil =>
      rw [commaList_singleton]
      exact ht
    | cons u rest =>
      have hcomma : Tidy (t ++ [',']) := ht.append (.word (by simp) (by simp [isBlank]))
      rw [commaList_cons_cons, List.append_cons]
      exact hcomma.space (ih (by simp) hrest)

end Tidiness

end RequestSql.Text
