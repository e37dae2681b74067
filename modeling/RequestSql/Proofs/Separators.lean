import Mathlib.Data.List.DropRight
import Mathlib.Data.List.Forall2
import RequestSql.Proofs.Alphabet
import RequestSql.Proofs.Encoding

namespace RequestSql

namespace Text

def Padded (core t : Text) : Prop :=
  ∃ before after, before.isAllBlank = true ∧ after.isAllBlank = true ∧
    t = before ++ core ++ after

structure Trimmed (t : Text) : Prop where
  first : ∀ c ∈ t.head?, isBlank c = false
  last : ∀ c ∈ t.getLast?, isBlank c = false

/-- At least one entry, with a separator between any two. Each entry stands for one value. -/
def Separated {α : Type} (sep : Char) (R : Text → α → Prop) (t : Text) (xs : List α) : Prop :=
  ∃ entries, entries ≠ [] ∧ t = [sep].intercalate entries ∧ List.Forall₂ R entries xs

inductive Worded : Text → List Text → Prop where
  | blank {t : Text} (ht : t.isAllBlank = true) : Worded t []
  | word {before w t : Text} {ws : List Text} (hbefore : before.isAllBlank = true) (hne : w ≠ [])
      (hw : ∀ c ∈ w, isBlank c = false) (apart : ∀ c ∈ t.head?, isBlank c = true)
      (rest : Worded t ws) : Worded (before ++ w ++ t) (w :: ws)

theorem isAllBlank_iff {t : Text} : t.isAllBlank = true ↔ ∀ c ∈ t, isBlank c = true :=
  List.all_eq_true

section Trimming

variable {t u core : Text}

theorem dropWhile_isBlank_append (ht : t.isAllBlank = true) (u : Text) :
    (t ++ u).dropWhile isBlank = u.dropWhile isBlank :=
  List.dropWhile_append_of_pos (isAllBlank_iff.mp ht)

theorem dropWhile_isBlank_eq_self (h : ∀ c ∈ t.head?, isBlank c = false) :
    t.dropWhile isBlank = t := by
  cases t with
  | nil => rfl
  | cons c t => exact List.dropWhile_cons_of_neg (by simp [h c rfl])

theorem dropWhile_isBlank_eq_nil (ht : t.isAllBlank = true) : t.dropWhile isBlank = [] :=
  List.dropWhile_eq_nil_iff.mpr (isAllBlank_iff.mp ht)

theorem padded_trim (t : Text) : Padded (trim t) t := by
  refine ⟨t.takeWhile isBlank, (t.dropWhile isBlank).rtakeWhile isBlank, ?_, ?_, ?_⟩
  · exact isAllBlank_iff.mpr fun c hc => List.mem_takeWhile_imp hc
  · exact isAllBlank_iff.mpr fun c hc => List.mem_rtakeWhile_imp hc
  · have hlast : trim t ++ (t.dropWhile isBlank).rtakeWhile isBlank = t.dropWhile isBlank :=
      List.rdropWhile_append_rtakeWhile
    rw [List.append_assoc, hlast, List.takeWhile_append_dropWhile]

theorem Padded.trim_eq (h : Padded core t) (hcore : Trimmed core) : trim t = core := by
  obtain ⟨before, after, hbefore, hafter, rfl⟩ := h
  have hreverse : isAllBlank after.reverse = true := by
    rw [isAllBlank, List.all_reverse]
    exact hafter
  rw [trim, trimBy, List.append_assoc, dropWhile_isBlank_append hbefore]
  cases core with
  | nil => rw [List.nil_append, dropWhile_isBlank_eq_nil hafter]; rfl
  | cons c core =>
    have hlast : ∀ d ∈ (c :: core).reverse.head?, isBlank d = false := by
      rw [List.head?_reverse]
      exact hcore.last
    rw [dropWhile_isBlank_eq_self (t := c :: core ++ after) hcore.first, List.reverse_append,
      dropWhile_isBlank_append hreverse, dropWhile_isBlank_eq_self hlast, List.reverse_reverse]

theorem Padded.append_left {before : Text} (hbefore : before.isAllBlank = true)
    (h : Padded core t) : Padded core (before ++ t) := by
  obtain ⟨before', after, hbefore', hafter, rfl⟩ := h
  refine ⟨before ++ before', after, ?_, hafter, by simp only [List.append_assoc]⟩
  rw [isAllBlank, List.all_append, Bool.and_eq_true]
  exact ⟨hbefore, hbefore'⟩

theorem Trimmed.of_word (h : ∀ c ∈ t, isBlank c = false) : Trimmed t where
  first c hc := h c (List.mem_of_mem_head? hc)
  last c hc := h c (List.mem_of_mem_getLast? hc)

end Trimming

section Cutting

variable {sep : Char} {t u v : Text}

theorem cut_eq_none_iff : cut sep t = none ↔ sep ∉ t := by
  refine ⟨fun h hsep => ?_, cut_eq_none⟩
  obtain ⟨before, after, rfl, hbefore⟩ := List.eq_append_cons_of_mem hsep
  rw [cut_append hbefore] at h
  cases h

theorem cut_eq_some_iff : cut sep t = some (u, v) ↔ t = u ++ sep :: v ∧ sep ∉ u := by
  constructor
  · intro h
    have hsep : sep ∈ t := by
      by_contra hsep
      rw [cut_eq_none hsep] at h
      cases h
    obtain ⟨before, after, rfl, hbefore⟩ := List.eq_append_cons_of_mem hsep
    rw [cut_append hbefore] at h
    cases h
    exact ⟨rfl, hbefore⟩
  · rintro ⟨rfl, hu⟩
    exact cut_append hu v

end Cutting

section Separation

variable {α : Type} {R : Text → α → Prop} {sep : Char} {t : Text} {xs : List α}

theorem splitOn_eq (sep : Char) (t : Text) : splitOn sep t = List.splitOn sep t := by
  rw [splitOn, splitBy_eq_splitOnP, List.splitOn_eq_splitOnP]

theorem forall_left {P : Text → Prop} {entries : List Text} (h : List.Forall₂ R entries xs)
    (hR : ∀ u x, R u x → P u) : ∀ u ∈ entries, P u :=
  ((List.forall₂_and_left _ _).mp (h.imp fun u x hx => ⟨hR u x hx, hx⟩)).1

theorem Separated.single {x : α} (h : R t x) : Separated sep R t [x] :=
  ⟨[t], by simp, by simp, .cons h .nil⟩

/-- Where no entry has a separator in it, the entries are what stands between separators. -/
theorem separated_iff (hsep : ∀ u x, R u x → sep ∉ u) :
    Separated sep R t xs ↔ List.Forall₂ R (splitOn sep t) xs := by
  rw [splitOn_eq]
  constructor
  · rintro ⟨entries, hne, rfl, h⟩
    rw [List.splitOn_intercalate sep (forall_left h hsep) hne]
    exact h
  · intro h
    exact ⟨_, List.splitOn_ne_nil _ _, (List.intercalate_splitOn sep).symm, h⟩

/-- Reading what stands between separators reads the entries. -/
theorem mapM_splitOn_iff {ε : Type} {f : Text → Except ε α} (hf : ∀ u x, f u = .ok x ↔ R u x)
    (hsep : ∀ u x, R u x → sep ∉ u) :
    (splitOn sep t).mapM f = .ok xs ↔ Separated sep R t xs := by
  rw [separated_iff hsep, mapM_eq_ok]
  simp only [hf]

/-- What stands in a list stands in an entry, or is the separator. -/
theorem Separated.chars {P : Char → Prop} (h : Separated sep R t xs) (hsep : P sep)
    (hR : ∀ u x, R u x → ∀ c ∈ u, P c) : ∀ c ∈ t, P c := by
  obtain ⟨entries, _, rfl, h⟩ := h
  intro c hc
  rcases mem_intercalate hc with hc | ⟨u, hu, hc⟩
  · rw [List.mem_singleton.mp hc]
    exact hsep
  · exact forall_left h hR u hu c hc

end Separation

section Wording

variable {t : Text} {ws : List Text}

theorem words_append_of_isAllBlank {b : Text} (hb : b.isAllBlank = true) (t : Text) :
    words (b ++ t) = words t := by
  induction b with
  | nil => rfl
  | cons c b ih =>
    rw [isAllBlank, List.all_cons, Bool.and_eq_true] at hb
    rw [List.cons_append, words_cons_blank hb.1, ih hb.2]

theorem Worded.words_eq (h : Worded t ws) : words t = ws := by
  induction h with
  | blank ht => exact words_eq_nil_iff.mpr ht
  | @word before w t ws hbefore hne hw apart rest ih =>
    rw [List.append_assoc, words_append_of_isAllBlank hbefore]
    cases t with
    | nil =>
      obtain rfl : [] = ws := ih
      rw [words, splitBy_append hw]
      simp [splitBy, hne]
    | cons c t =>
      have hc := apart c rfl
      rw [words_append_blank hw hne hc, ← ih, words_cons_blank hc]

theorem Worded.cons_blank {c : Char} (hc : isBlank c = true) (h : Worded t ws) :
    Worded (c :: t) ws := by
  cases h with
  | blank ht => exact .blank (isAllBlank_iff.mpr (List.forall_mem_cons.mpr ⟨hc, isAllBlank_iff.mp ht⟩))
  | @word before w t ws hbefore hne hw apart rest =>
    have hcons : isAllBlank (c :: before) = true := by
      rw [isAllBlank, List.all_cons, hc]
      exact hbefore
    exact .word hcons hne hw apart rest

theorem Worded.append_word {w : Text} (hne : w ≠ []) (hw : ∀ c ∈ w, isBlank c = false)
    (apart : ∀ c ∈ t.head?, isBlank c = true) (h : Worded t ws) : Worded (w ++ t) (w :: ws) := by
  have hword : Worded ([] ++ w ++ t) (w :: ws) := .word rfl hne hw apart h
  exact hword

/-- A character in front of a word belongs to it. -/
theorem Worded.cons_word {c : Char} {w : Text} (hc : isBlank c = false)
    (ht : t.head?.any isBlank = false) (h : Worded t (w :: ws)) :
    Worded (c :: t) ((c :: w) :: ws) := by
  generalize hws : w :: ws = vs at h
  cases h with
  | blank _ => cases hws
  | @word before v t vs hbefore hne hw apart rest =>
    cases hws
    cases before with
    | cons d before =>
      rw [isAllBlank, List.all_cons, Bool.and_eq_true] at hbefore
      have hd : isBlank d = false := ht
      rw [hbefore.1] at hd
      cases hd
    | nil =>
      have hall : ∀ d ∈ c :: w, isBlank d = false := List.forall_mem_cons.mpr ⟨hc, hw⟩
      exact rest.append_word (by simp) hall apart

theorem worded_words (t : Text) : Worded t (words t) := by
  induction t with
  | nil => exact .blank rfl
  | cons c t ih =>
    cases hc : isBlank c with
    | true =>
      rw [words_cons_blank hc]
      exact ih.cons_blank hc
    | false =>
      have hword : ∀ d ∈ [c], isBlank d = false := by simpa using hc
      cases t with
      | nil =>
        have hone : Worded ([c] ++ []) [[c]] := ih.append_word (by simp) hword (by simp)
        rw [List.append_nil] at hone
        rwa [hone.words_eq]
      | cons d t =>
        cases hd : isBlank d with
        | true =>
          have happend := words_append_blank (t := t) hword (by simp) hd
          rw [← words_cons_blank (t := t) hd] at happend
          rw [List.singleton_append] at happend
          rw [happend]
          exact ih.append_word (by simp) hword (by simpa using hd)
        | false =>
          obtain ⟨v, vs, hone, happend⟩ := words_append_word (t := t) hword hd
          rw [List.singleton_append] at happend
          rw [happend]
          rw [hone] at ih
          exact ih.cons_word hc hd

theorem words_eq_iff : words t = ws ↔ Worded t ws :=
  ⟨fun h => h ▸ worded_words t, Worded.words_eq⟩

theorem Worded.append_blank {b : Text} (hb : b.isAllBlank = true) (h : Worded t ws) :
    Worded (t ++ b) ws := by
  induction h with
  | blank ht =>
    refine .blank (isAllBlank_iff.mpr (List.forall_mem_append.mpr ⟨?_, ?_⟩))
    · exact isAllBlank_iff.mp ht
    · exact isAllBlank_iff.mp hb
  | @word before w t ws hbefore hne hw apart _ ih =>
    rw [List.append_assoc]
    refine .word hbefore hne hw ?_ ih
    cases t with
    | nil => exact fun c hc => isAllBlank_iff.mp hb c (List.mem_of_mem_head? hc)
    | cons c t => exact apart

theorem words_trim (t : Text) : words (trim t) = words t := by
  obtain ⟨before, after, hbefore, hafter, ht⟩ := padded_trim t
  have hwords := ((worded_words (trim t)).append_blank hafter).words_eq
  rw [← hwords, ← words_append_of_isAllBlank hbefore, ← List.append_assoc, ← ht]

/-- What stands in a text stands in one of its words, or is white space. -/
theorem Worded.chars (h : Worded t ws) {c : Char} (hc : c ∈ t) :
    isBlank c = true ∨ ∃ w ∈ ws, c ∈ w := by
  induction h with
  | blank ht => exact .inl (isAllBlank_iff.mp ht c hc)
  | word hbefore _ _ _ _ ih =>
    rcases List.mem_append.mp hc with hc | hc
    · rcases List.mem_append.mp hc with hc | hc
      · exact .inl (isAllBlank_iff.mp hbefore c hc)
      · exact .inr ⟨_, List.mem_cons_self, hc⟩
    · exact (ih hc).imp_right fun ⟨w, hw, hc⟩ => ⟨w, List.mem_cons_of_mem _ hw, hc⟩

end Wording

end Text

namespace Name

def Entry (t name : Text) : Prop :=
  isIdentifier name = true ∧ Text.Padded name t

variable {t name : Text}

theorem entry_iff : Entry t name ↔ Text.trim t = name ∧ isIdentifier name = true := by
  constructor
  · rintro ⟨hname, ht⟩
    have hword : ∀ c ∈ name, Text.isBlank c = false :=
      fun c hc => Text.isBlank_of_isNameChar (isIdentifier_isName hname c hc)
    exact ⟨ht.trim_eq (.of_word hword), hname⟩
  · rintro ⟨rfl, hname⟩
    exact ⟨hname, Text.padded_trim t⟩

theorem check_iff {place : Place} {u : Unit} :
    Name.check place name = .ok u ↔ isIdentifier name = true :=
  ⟨check_eq_ok, fun h => if_pos h⟩

/-- An entry of a list of identifiers is read as the identifier in it. -/
theorem check_trim_iff {place : Place} :
    (do Name.check place (Text.trim t); return Text.trim t) = Except.ok name ↔ Entry t name := by
  rw [bind_eq_ok, entry_iff]
  constructor
  · rintro ⟨_, hcheck, h⟩
    cases h
    exact ⟨rfl, check_eq_ok hcheck⟩
  · rintro ⟨rfl, h⟩
    exact ⟨(), check_iff.mpr h, rfl⟩

theorem Entry.chars (h : Entry t name) :
    ∀ c ∈ t, Text.isBlank c = true ∨ Text.isNameChar c = true := by
  obtain ⟨hname, before, after, hbefore, hafter, rfl⟩ := h
  intro c hc
  rcases List.mem_append.mp hc with hc | hc
  · rcases List.mem_append.mp hc with hc | hc
    · exact .inl (Text.isAllBlank_iff.mp hbefore c hc)
    · exact .inr (isIdentifier_isName hname c hc)
  · exact .inl (Text.isAllBlank_iff.mp hafter c hc)

theorem Entry.not_mem (h : Entry t name) {c : Char} (hb : Text.isBlank c = false)
    (hn : Text.isNameChar c = false) : c ∉ t := by
  intro hc
  rcases h.chars c hc with hc | hc
  · rw [hb] at hc
    cases hc
  · rw [hn] at hc
    cases hc

end Name

end RequestSql
