import RequestSql.Proofs.Recognition
import RequestSql.Proofs.Spacing
import RequestSql.Proofs.Stages

namespace RequestSql

def Text.isNameChar (c : Char) : Bool :=
  isNamePart c || c == '.'

def Text.IsName (t : Text) : Prop :=
  ∀ c ∈ t, isNameChar c = true

section Identifiers

theorem Text.isAlpha_iff {c : Char} : c.isAlpha = true ↔
    (65 ≤ c.toNat ∧ c.toNat ≤ 90) ∨ (97 ≤ c.toNat ∧ c.toNat ≤ 122) := by
  delta Char.isAlpha Char.isUpper Char.isLower
  simp only [Bool.or_eq_true, Bool.and_eq_true, decide_eq_true_eq, UInt32.le_iff_toNat_le]
  rfl

theorem Text.isDigit_iff {c : Char} : c.isDigit = true ↔ 48 ≤ c.toNat ∧ c.toNat ≤ 57 :=
  Char.isDigit_iff_toNat

theorem Text.isAlphabetic_of_isAlpha {c : Char} (h : c.isAlpha = true) : isAlphabetic c = true := by
  have hc := isAlpha_iff.mp h
  rw [isAlphabetic, if_pos (by omega), h]

theorem Text.isNumeric_of_isDigit {c : Char} (h : c.isDigit = true) : isNumeric c = true := by
  have hc := isDigit_iff.mp h
  rw [isNumeric, if_pos (by omega), h]

theorem Text.isAlphanumeric_of_isAlphanum {c : Char} (h : c.isAlphanum = true) :
    isAlphanumeric c = true := by
  rw [Char.isAlphanum, Bool.or_eq_true] at h
  rw [isAlphanumeric, Bool.or_eq_true]
  exact h.imp isAlphabetic_of_isAlpha isNumeric_of_isDigit

theorem Name.isWord_chars {t : Text} (h : isWord t = true) :
    ∀ c ∈ t, (c.isAlphanum || c == '_') = true := by
  cases t with
  | nil => simp
  | cons c rest =>
    simp only [isWord, Bool.and_eq_true, Bool.or_eq_true, List.all_eq_true] at h
    obtain ⟨hc, hrest⟩ := h
    refine List.forall_mem_cons.mpr ⟨?_, fun d hd => Bool.or_eq_true_iff.mpr (hrest d hd)⟩
    rcases hc with hc | hc
    · simp [Char.isAlphanum, hc]
    · simp [hc]

theorem Name.isWord_isName {t : Text} (h : isWord t = true) : t.IsName := by
  intro c hc
  have hw := isWord_chars h c hc
  rw [Bool.or_eq_true] at hw
  rcases hw with hw | hw
  · simp [Text.isNameChar, Text.isNamePart, Text.isAlphanumeric_of_isAlphanum hw]
  · simp [Text.isNameChar, Text.isNamePart, hw]

theorem Name.isIdentifier_isName {t : Text} (h : isIdentifier t = true) : t.IsName := by
  intro c hc
  cases hp : c == '.' with
  | true => simp [Text.isNameChar, hp]
  | false =>
    obtain ⟨u, hu, hcu⟩ := Text.mem_splitBy_of_mem (p := (· == '.')) hc hp
    exact isWord_isName (List.all_eq_true.mp h u hu) c hcu

theorem Name.isIdentifier_ne_nil {t : Text} (h : isIdentifier t = true) : t ≠ [] := by
  rintro rfl
  exact absurd h (by decide)

theorem Name.check_eq_ok {place : Place} {name : Text} {u : Unit}
    (h : Name.check place name = .ok u) : isIdentifier name = true := by
  unfold Name.check at h
  split at h
  · assumption
  · cases h

end Identifiers

section Lexing

theorem Lexer.nameTail_isName (t : Text) : (nameTail t).IsName := by
  induction t with
  | nil => simp [nameTail, Text.IsName]
  | cons c rest ih =>
    unfold nameTail
    split
    · rename_i hc
      exact List.forall_mem_cons.mpr ⟨by simp [Text.isNameChar, hc], ih⟩
    · split
      · rename_i hc
        exact List.forall_mem_cons.mpr ⟨by simp [Text.isNameChar, hc.1], ih⟩
      · simp [Text.IsName]

theorem Text.isNameChar_of_isNameStart {c : Char} (h : isNameStart c = true) :
    isNameChar c = true := by
  rw [isNameStart, Bool.or_eq_true] at h
  rcases h with h | h
  · simp [isNameChar, isNamePart, isAlphanumeric, h]
  · simp [isNameChar, isNamePart, h]

theorem Lexer.integerKind_ne_identifier (negative : Bool) (digits name : Text) :
    integerKind negative digits ≠ .identifier name := by
  unfold integerKind
  intro h
  dsimp only at h
  repeat' split at h
  all_goals cases h

theorem Lexer.scanNumber_ne_identifier (t name : Text) :
    (scanNumber t).1 ≠ .identifier name := by
  unfold scanNumber
  intro h
  dsimp only at h
  repeat' split at h
  all_goals dsimp only at h
  all_goals first | exact integerKind_ne_identifier _ _ _ h | cases h

/-- A token that is a name was scanned as one. -/
theorem Lexer.scan_identifier {c : Char} {rest name : Text}
    (h : (scan c rest).1 = .identifier name) : name ≠ [] ∧ name.IsName := by
  unfold scan at h
  split at h
  · cases h
  split at h
  · cases h
  split at h
  · split at h <;> cases h
  split at h
  · exact absurd h (scanNumber_ne_identifier _ _)
  split at h
  · rename_i hc
    have hname : Text.IsName (c :: nameTail rest) :=
      List.forall_mem_cons.mpr ⟨Text.isNameChar_of_isNameStart hc, nameTail_isName rest⟩
    dsimp only [nameKind] at h
    split at h
    · cases h
      exact ⟨by simp, hname⟩
    · split at h
      · cases h
      · cases h
        exact ⟨by simp, hname⟩
  · cases h

theorem Lexer.mem_tokensFrom {offset skip : Nat} {t : Text} {token : Token}
    (h : token ∈ tokensFrom offset skip t) : ∃ c rest, token.kind = (scan c rest).1 := by
  induction t generalizing offset skip with
  | nil => simp [tokensFrom] at h
  | cons c rest ih =>
    cases skip with
    | succ skip => exact ih h
    | zero =>
      simp only [tokensFrom] at h
      split at h
      · exact ih h
      · rcases List.mem_cons.mp h with rfl | h
        · exact ⟨c, rest, rfl⟩
        · exact ih h

/-- The fields of a filter are names. -/
theorem Filter.parse_fields {t : Text} {e : Filter} (h : Filter.parse t = .ok e) :
    ∀ field ∈ e.fields, field ≠ [] ∧ field.IsName := by
  intro field hf
  obtain ⟨d, n, hd, _, _⟩ := (Filter.parse_eq_ok t e).mp h
  obtain ⟨token, ht, hk⟩ := List.mem_map.mp (hd.field_mem hf)
  obtain ⟨c, rest, hs⟩ := Lexer.mem_tokensFrom ht
  exact Lexer.scan_identifier (hs.symm.trans hk)

end Lexing

section Directives

open Name (isIdentifier isWord)

theorem Options.check_names {o : Options} (h : o.check = .ok ()) :
    isIdentifier o.table = true ∧ ∀ a ∈ o.effectiveAlias, isIdentifier a = true := by
  obtain ⟨_, ht, h⟩ := bind_eq_ok.mp h
  refine ⟨Name.check_eq_ok ht, ?_⟩
  intro a ha
  rw [Option.mem_def.mp ha] at h
  exact Name.check_eq_ok h

theorem Select.parse_names {value : Text} {columns : List Column}
    (h : Select.parse value = .ok columns) :
    ∀ c ∈ columns, c = .all ∨ ∃ name, c = .field name ∧ isIdentifier name = true := by
  refine forall_of_mapM h ?_
  intro entry c h
  unfold parseEntry at h
  dsimp only at h
  split at h
  · exact .inl (Except.ok.inj h).symm
  · obtain ⟨_, hn, h⟩ := bind_eq_ok.mp h
    exact .inr ⟨_, (Except.ok.inj h).symm, Name.check_eq_ok hn⟩

theorem OrderBy.parse_names {value : Text} {keys : List SortKey}
    (h : OrderBy.parse value = .ok keys) :
    ∀ k ∈ keys, isIdentifier k.field = true ∧ ∀ d ∈ k.direction, isDirection d = true := by
  refine forall_of_mapM h ?_
  intro entry k h
  unfold parseEntry at h
  split at h
  · obtain ⟨_, hn, h⟩ := bind_eq_ok.mp h
    cases h
    exact ⟨Name.check_eq_ok hn, by simp⟩
  · split at h
    · rename_i hd
      obtain ⟨_, hn, h⟩ := bind_eq_ok.mp h
      cases h
      exact ⟨Name.check_eq_ok hn, by simpa using hd⟩
    · cases h
  · cases h

theorem Expand.parseFields_names {t : Text} {fields : List Text}
    (h : Expand.parseFields t = .ok fields) : ∀ f ∈ fields, isIdentifier f = true := by
  refine forall_of_mapM h ?_
  intro entry f h
  obtain ⟨_, hn, h⟩ := bind_eq_ok.mp h
  cases h
  exact Name.check_eq_ok hn

theorem Expand.parseOptions_names {table : Text} {options selects : List Text}
    (h : Expand.parseOptions table options = .ok selects) :
    ∀ f ∈ selects, isIdentifier f = true := by
  induction options generalizing selects with
  | nil =>
    cases h
    simp
  | cons option rest ih =>
    unfold Expand.parseOptions at h
    split at h
    · cases h
    · obtain ⟨first, hf, h⟩ := bind_eq_ok.mp h
      obtain ⟨others, ho, h⟩ := bind_eq_ok.mp h
      cases h
      exact List.forall_mem_append.mpr ⟨parseFields_names hf, ih ho⟩

theorem Expand.parse_names {value : Text} {expansions : List Expansion}
    (h : Expand.parse value = .ok expansions) :
    ∀ e ∈ expansions, isIdentifier e.table = true ∧ ∀ f ∈ e.selects, isIdentifier f = true := by
  unfold Expand.parse at h
  split at h
  · cases h
  · cases h
  · refine forall_of_mapM h ?_
    intro entry e h
    unfold parseEntry at h
    dsimp only at h
    split at h
    · cases h
    split at h
    · obtain ⟨_, hn, h⟩ := bind_eq_ok.mp h
      cases h
      exact ⟨Name.check_eq_ok hn, by simp⟩
    · obtain ⟨_, hn, h⟩ := bind_eq_ok.mp h
      split at h
      · obtain ⟨selects, hs, h⟩ := bind_eq_ok.mp h
        cases h
        exact ⟨Name.check_eq_ok hn, parseOptions_names hs⟩
      · cases h

structure Aggregate.Named (a : Aggregate) : Prop where
  operand : a.operand = .rows ∨ ∃ name, a.operand = .field name ∧ isIdentifier name = true
  function : ∃ name, isWord name = true ∧ a.function = .ofName name
  aliasName : isIdentifier a.aliasName = true

theorem Apply.parseOperand_named {entry field : Text} {function : AggregateFunction}
    {operand : Operand} (h : parseOperand entry field function = .ok operand) :
    operand = .rows ∨ ∃ name, operand = .field name ∧ isIdentifier name = true := by
  unfold parseOperand at h
  split at h
  · split at h
    · exact .inl (Except.ok.inj h).symm
    · cases h
  · obtain ⟨_, hn, h⟩ := bind_eq_ok.mp h
    exact .inr ⟨field, (Except.ok.inj h).symm, Name.check_eq_ok hn⟩

theorem Apply.checkAlias_named {aliasName : Text} {u : Unit} (h : checkAlias aliasName = .ok u) :
    '.' ∉ aliasName ∧ isIdentifier aliasName = true := by
  unfold checkAlias at h
  split at h
  · cases h
  · rename_i hp
    exact ⟨hp, Name.check_eq_ok h⟩

theorem Apply.parseAggregate_named {entry : Text} {a : Aggregate}
    (h : parseAggregate entry = .ok a) : a.Named := by
  unfold parseAggregate at h
  dsimp only at h
  split at h
  · split at h
    · rename_i hw
      obtain ⟨operand, ho, h⟩ := bind_eq_ok.mp h
      obtain ⟨_, ha, h⟩ := bind_eq_ok.mp h
      cases h
      exact ⟨parseOperand_named ho, ⟨_, hw.2.2, rfl⟩, (checkAlias_named ha).2⟩
    · cases h
  · cases h

theorem Apply.parse_names {value : Text} {g : Grouping} (h : Apply.parse value = .ok g) :
    (∀ f ∈ g.fields, isIdentifier f = true) ∧ ∀ a ∈ g.aggregates, a.Named := by
  unfold Apply.parse at h
  split at h
  · cases h
  · obtain ⟨fields, hf, h⟩ := bind_eq_ok.mp h
    obtain ⟨aggregates, ha, h⟩ := bind_eq_ok.mp h
    cases h
    refine ⟨forall_of_mapM hf ?_, forall_of_mapM ha fun _ _ => parseAggregate_named⟩
    intro entry f h
    obtain ⟨_, hn, h⟩ := bind_eq_ok.mp h
    cases h
    exact Name.check_eq_ok hn

end Directives

end RequestSql
