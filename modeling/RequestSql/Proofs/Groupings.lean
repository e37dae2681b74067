import RequestSql.Proofs.Separators

namespace RequestSql.Apply

open Text (Separated Worded isAllBlank isBlank)
open Name (isIdentifier isWord)

/-- `groupby((fields), aggregate(aggregates))`, with white space around the parts. -/
def Shaped (fields aggregates t : Text) : Prop :=
  ∃ b₀ b₁ b₂ b₃ b₄ b₅ : Text, (∀ b ∈ [b₀, b₁, b₂, b₃, b₄, b₅], b.isAllBlank = true) ∧
    t = b₀ ++ "groupby(".toList ++ b₁ ++ ['('] ++ fields ++ [')'] ++ b₂ ++ [','] ++ b₃ ++
      "aggregate(".toList ++ aggregates ++ [')'] ++ b₄ ++ [')'] ++ b₅

/-- The word for what a function is applied to: an asterisk, which can only be counted, or an
identifier. -/
inductive OperandWord (function : AggregateFunction) : Text → Operand → Prop where
  | rows (h : function = .count) : OperandWord function ['*'] .rows
  | field {name : Text} (h : isIdentifier name = true) : OperandWord function name (.field name)

inductive AggregateEntry (t : Text) : Aggregate → Prop where
  | words {field function aliasName : Text} {operand : Operand}
      (words : Worded t [field, "with".toList, function, "as".toList, aliasName])
      (operandWord : OperandWord (.ofName function) field operand)
      (functionWord : isWord function = true)
      (aliasWord : isIdentifier aliasName = true ∧ '.' ∉ aliasName) :
      AggregateEntry t { operand, function := .ofName function, aliasName }

def Written (t : Text) (g : Grouping) : Prop :=
  ∃ fields aggregates, Shaped fields aggregates t ∧ Separated ',' Name.Entry fields g.fields ∧
    Separated ',' AggregateEntry aggregates g.aggregates

section Shape

variable {s t u rest : Text}

/-- A part of the form with white space before it. -/
theorem skip_after_iff (hs : s.head?.any (!isBlank ·) = true) (t u : Text) :
    s.isPrefixOf? (skipBlank t) = some u ↔ ∃ b : Text, b.isAllBlank = true ∧ t = b ++ s ++ u := by
  rw [List.isPrefixOf?_eq_some_iff_append_eq]
  constructor
  · intro h
    refine ⟨t.takeWhile isBlank, ?_, ?_⟩
    · exact Text.isAllBlank_iff.mpr fun c hc => List.mem_takeWhile_imp hc
    · rw [List.append_assoc, h]
      exact List.takeWhile_append_dropWhile.symm
  · rintro ⟨b, hb, rfl⟩
    rw [skipBlank, List.append_assoc, Text.dropWhile_isBlank_append hb]
    cases s with
    | nil => cases hs
    | cons c s => exact (Text.dropWhile_isBlank_eq_self (by simpa using hs)).symm

def IsFlat (t : Text) : Prop :=
  ∀ c ∈ t, (c != '(' && c != ')') = true

theorem inside_eq_some_iff : inside? t = some (u, rest) ↔ IsFlat u ∧ t = u ++ ')' :: rest := by
  unfold inside?
  constructor
  · intro h
    split at h
    · rename_i hdrop
      cases h
      refine ⟨fun c hc => List.mem_takeWhile_imp (p := fun c => c != '(' && c != ')') hc, ?_⟩
      rw [← hdrop]
      exact List.takeWhile_append_dropWhile.symm
    · cases h
  · rintro ⟨hu, rfl⟩
    rw [List.dropWhile_append_of_pos hu, List.takeWhile_append_of_pos hu]
    simp

theorem skipBlank_isEmpty_iff : (skipBlank t).isEmpty = true ↔ t.isAllBlank = true := by
  rw [List.isEmpty_iff, skipBlank, List.dropWhile_eq_nil_iff, Text.isAllBlank_iff]

theorem shape_eq_some_iff {fields aggregates : Text} :
    shape? t = some (fields, aggregates) ↔
      Shaped fields aggregates t ∧ IsFlat fields ∧ IsFlat aggregates := by
  have hgroupby := skip_after_iff (s := "groupby(".toList) (by decide)
  have hopen := skip_after_iff (s := ['(']) (by decide)
  have hcomma := skip_after_iff (s := [',']) (by decide)
  have haggregate := skip_after_iff (s := "aggregate(".toList) (by decide)
  have hclose := skip_after_iff (s := [')']) (by decide)
  simp only [shape?, Option.bind_eq_bind, Option.bind_eq_some_iff, Prod.exists, hgroupby, hopen,
    hcomma, haggregate, hclose, inside_eq_some_iff, Option.ite_none_right_eq_some,
    skipBlank_isEmpty_iff]
  constructor
  · rintro ⟨_, ⟨b₀, h₀, rfl⟩, _, ⟨b₁, h₁, rfl⟩, u, _, ⟨hu, rfl⟩, _, ⟨b₂, h₂, rfl⟩, _,
      ⟨b₃, h₃, rfl⟩, v, _, ⟨hv, rfl⟩, b₅, ⟨b₄, h₄, rfl⟩, h₅, ⟨⟩⟩
    refine ⟨⟨b₀, b₁, b₂, b₃, b₄, b₅, by simp [*], ?_⟩, hu, hv⟩
    simp only [List.append_assoc, List.cons_append, List.nil_append]
  · rintro ⟨⟨b₀, b₁, b₂, b₃, b₄, b₅, hb, rfl⟩, hu, hv⟩
    simp only [List.forall_mem_cons] at hb
    obtain ⟨h₀, h₁, h₂, h₃, h₄, h₅, _⟩ := hb
    refine ⟨_, ⟨b₀, h₀, ?_⟩, _, ⟨b₁, h₁, rfl⟩, fields, _, ⟨hu, rfl⟩, _, ⟨b₂, h₂, rfl⟩, _,
      ⟨b₃, h₃, rfl⟩, aggregates, _, ⟨hv, rfl⟩, b₅, ⟨b₄, h₄, rfl⟩, h₅, rfl⟩
    simp only [List.append_assoc, List.cons_append, List.nil_append]

end Shape

section Parts

variable {t entry field : Text}

theorem parseOperand_eq_ok_iff {function : AggregateFunction} {operand : Operand} :
    parseOperand entry field function = .ok operand ↔ OperandWord function field operand := by
  unfold parseOperand
  constructor
  · intro h
    split at h
    · rename_i hfield
      split at h
      · rename_i hcount
        cases h
        rw [hfield]
        exact .rows hcount
      · cases h
    · obtain ⟨_, hcheck, h⟩ := bind_eq_ok.mp h
      cases h
      exact .field (Name.check_eq_ok hcheck)
  · intro h
    cases h with
    | rows hcount => rw [if_pos rfl, if_pos hcount]; rfl
    | field hname =>
      have hne : field ≠ ['*'] := by
        rintro rfl
        exact absurd hname (by decide)
      rw [if_neg hne]
      exact bind_eq_ok.mpr ⟨(), Name.check_iff.mpr hname, rfl⟩

theorem checkAlias_eq_ok_iff {aliasName : Text} {u : Unit} :
    checkAlias aliasName = .ok u ↔ isIdentifier aliasName = true ∧ '.' ∉ aliasName := by
  constructor
  · intro h
    obtain ⟨hplain, hname⟩ := checkAlias_named h
    exact ⟨hname, hplain⟩
  · rintro ⟨hname, hplain⟩
    rw [checkAlias, if_neg hplain]
    exact Name.check_iff.mpr hname

theorem parseAggregate_eq_ok_iff {a : Aggregate} :
    parseAggregate t = .ok a ↔ AggregateEntry t a := by
  unfold parseAggregate
  dsimp only
  rw [Text.words_trim]
  constructor
  · intro h
    split at h
    · rename_i hwords
      split at h
      · rename_i hw
        obtain ⟨rfl, rfl, hfunction⟩ := hw
        obtain ⟨operand, hoperand, h⟩ := bind_eq_ok.mp h
        obtain ⟨_, halias, h⟩ := bind_eq_ok.mp h
        cases h
        exact .words (Text.words_eq_iff.mp hwords) (parseOperand_eq_ok_iff.mp hoperand) hfunction
          (checkAlias_eq_ok_iff.mp halias)
      · cases h
    · cases h
  · rintro ⟨hwords, hoperand, hfunction, halias⟩
    rw [Text.words_eq_iff.mpr hwords]
    dsimp only
    rw [if_pos ⟨rfl, rfl, hfunction⟩]
    exact bind_eq_ok.mpr ⟨_, parseOperand_eq_ok_iff.mpr hoperand,
      bind_eq_ok.mpr ⟨(), checkAlias_eq_ok_iff.mpr halias, rfl⟩⟩

theorem parseField_eq_ok_iff {name : Text} : parseField t = .ok name ↔ Name.Entry t name :=
  Name.check_trim_iff

end Parts

section Characters

def isEntryChar (c : Char) : Bool :=
  isBlank c || Text.isNameChar c || c == '*'

variable {t name : Text} {a : Aggregate} {c : Char}

theorem isEntryChar_of_isName (h : Text.isNameChar c = true) : isEntryChar c = true := by
  simp [isEntryChar, h]

theorem isEntryChar_of_entry (h : Name.Entry t name) (hc : c ∈ t) : isEntryChar c = true := by
  rcases h.chars c hc with hc | hc
  · simp [isEntryChar, hc]
  · exact isEntryChar_of_isName hc

theorem isEntryChar_of_operandWord {function : AggregateFunction} {operand : Operand}
    (h : OperandWord function t operand) (hc : c ∈ t) : isEntryChar c = true := by
  cases h with
  | rows _ =>
    rw [List.mem_singleton.mp hc]
    decide
  | field hname => exact isEntryChar_of_isName (Name.isIdentifier_isName hname c hc)

theorem isEntryChar_of_aggregateEntry (h : AggregateEntry t a) (hc : c ∈ t) :
    isEntryChar c = true := by
  obtain ⟨hwords, hoperand, hfunction, halias⟩ := h
  rcases hwords.chars hc with hc | ⟨w, hw, hc⟩
  · simp [isEntryChar, hc]
  simp only [List.mem_cons, List.not_mem_nil, or_false] at hw
  rcases hw with rfl | rfl | rfl | rfl | rfl
  · exact isEntryChar_of_operandWord hoperand hc
  · exact List.all_eq_true.mp (by decide : "with".toList.all isEntryChar = true) c hc
  · exact isEntryChar_of_isName (Name.isWord_isName hfunction c hc)
  · exact List.all_eq_true.mp (by decide : "as".toList.all isEntryChar = true) c hc
  · exact isEntryChar_of_isName (Name.isIdentifier_isName halias.1 c hc)

theorem comma_not_mem (h : ∀ c ∈ t, isEntryChar c = true) : ',' ∉ t := by
  intro hc
  exact absurd (h ',' hc) (by decide)

/-- A list of entries has no parentheses in it. -/
theorem isFlat_of_separated {α : Type} {R : Text → α → Prop} {xs : List α}
    (hR : ∀ u x, R u x → ∀ c ∈ u, isEntryChar c = true) (h : Separated ',' R t xs) : IsFlat t := by
  refine h.chars (by decide) fun u x hx c hc => ?_
  have hentry := hR u x hx c hc
  rw [Bool.and_eq_true, bne_iff_ne, bne_iff_ne]
  constructor
  all_goals
    rintro rfl
    exact absurd hentry (by decide)

end Characters

/-- A grouping is read from a text exactly where the text is written for it. -/
theorem parse_grouping_iff (t : Text) (g : Grouping) : parse t = .ok g ↔ Written t g := by
  have hfield : ∀ u x, Name.Entry u x → ∀ c ∈ u, isEntryChar c = true :=
    fun _ _ h _ => isEntryChar_of_entry h
  have haggregate : ∀ u x, AggregateEntry u x → ∀ c ∈ u, isEntryChar c = true :=
    fun _ _ h _ => isEntryChar_of_aggregateEntry h
  have hfields : ∀ u xs, (Text.splitOn ',' u).mapM parseField = .ok xs ↔
      Separated ',' Name.Entry u xs := fun _ _ =>
    Text.mapM_splitOn_iff (fun _ _ => parseField_eq_ok_iff)
      fun u x h => comma_not_mem (hfield u x h)
  have haggregates : ∀ u xs, (Text.splitOn ',' u).mapM parseAggregate = .ok xs ↔
      Separated ',' AggregateEntry u xs := fun _ _ =>
    Text.mapM_splitOn_iff (fun _ _ => parseAggregate_eq_ok_iff)
      fun u x h => comma_not_mem (haggregate u x h)
  constructor
  · intro h
    unfold parse at h
    split at h
    · cases h
    · rename_i fields aggregates hshape
      obtain ⟨xs, hxs, h⟩ := bind_eq_ok.mp h
      obtain ⟨ys, hys, h⟩ := bind_eq_ok.mp h
      cases h
      exact ⟨fields, aggregates, (shape_eq_some_iff.mp hshape).1, (hfields _ _).mp hxs,
        (haggregates _ _).mp hys⟩
  · rintro ⟨fields, aggregates, hshape, hxs, hys⟩
    have hflat := isFlat_of_separated hfield hxs
    have hflat' := isFlat_of_separated haggregate hys
    rw [parse, shape_eq_some_iff.mpr ⟨hshape, hflat, hflat'⟩]
    exact bind_eq_ok.mpr ⟨_, (hfields _ _).mpr hxs,
      bind_eq_ok.mpr ⟨_, (haggregates _ _).mpr hys, rfl⟩⟩

/-- The words of an aggregate are told by their places: a field may be named `with`, and an alias
`as`. -/
example : parseAggregate "with with sum as as".toList =
    .ok ⟨.field "with".toList, .sum, "as".toList⟩ := by
  decide

end RequestSql.Apply
