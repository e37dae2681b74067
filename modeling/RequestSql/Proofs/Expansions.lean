import RequestSql.Proofs.Separators

namespace RequestSql.Expand

open Text (Separated isAllBlank isBlank)
open Name (isIdentifier)

inductive OptionEntry (t : Text) : List Text → Prop where
  | blank (h : Text.trim t = []) : OptionEntry t []
  | select {list : Text} {columns : List Text} (h : Text.trim t = "$select=".toList ++ list)
      (columnsOf : Separated ',' Name.Entry list columns) : OptionEntry t columns

inductive TableEntry : Text → Expansion → Prop where
  | plain {t table : Text} (h : Name.Entry t table) : TableEntry t { table }
  | withOptions {name table options after : Text} {selects : List (List Text)}
      (h : Name.Entry name table) (optionsOf : Separated ';' OptionEntry options selects)
      (hafter : after.isAllBlank = true) :
      TableEntry (name ++ '(' :: options ++ ')' :: after) { table, selects := selects.flatten }

section Splitting

variable {d d' d'' : Nat} {c : Char} {t u v : Text} {entries : List Text}

def nest (c : Char) (d : Nat) : Except Imbalance Nat :=
  if c = '(' then .ok (d + 1)
  else if c = ')' then if d = 0 then .error .unopened else .ok (d - 1)
  else .ok d

def attach (c : Char) : List Text → List Text
  | [] => [[c]]
  | piece :: pieces => (c :: piece) :: pieces

theorem splitFrom_comma (t : Text) :
    splitFrom 0 (',' :: t) = do return [] :: (← splitFrom 0 t) := by
  rw [splitFrom, if_pos ⟨rfl, rfl⟩]

/-- What a character does that does not end an entry. -/
theorem splitFrom_cons (hc : ¬(c = ',' ∧ d = 0)) (t : Text) :
    splitFrom d (c :: t) = do
      let d' ← nest c d
      return attach c (← splitFrom d' t) := by
  have hattach : ∀ (x : Except Imbalance (List Text)) (f : List Text → Except Imbalance (List Text)),
      (∀ pieces, f pieces = .ok (attach c pieces)) → x >>= f = do return attach c (← x) := by
    intro x f hf
    cases x with
    | error e => rfl
    | ok pieces => exact hf pieces
  rw [splitFrom, if_neg hc, nest]
  dsimp only
  split
  · exact hattach _ _ fun pieces => by cases pieces <;> rfl
  split
  · cases d with
    | zero => rfl
    | succ d => exact hattach _ _ fun pieces => by cases pieces <;> rfl
  · exact hattach _ _ fun pieces => by cases pieces <;> rfl

/-- The entries with commas between them are the text. -/
theorem splitFrom_joined (h : splitFrom d t = .ok entries) :
    entries ≠ [] ∧ [','].intercalate entries = t := by
  induction t generalizing d entries with
  | nil =>
    cases d with
    | zero =>
      cases h
      simp
    | succ d => cases h
  | cons c t ih =>
    by_cases hc : c = ',' ∧ d = 0
    · obtain ⟨rfl, rfl⟩ := hc
      rw [splitFrom_comma] at h
      obtain ⟨rest, hrest, ⟨⟩⟩ := bind_eq_ok.mp h
      obtain ⟨hne, rfl⟩ := ih hrest
      cases rest with
      | nil => exact absurd rfl hne
      | cons piece pieces => simp
    · rw [splitFrom_cons hc] at h
      obtain ⟨d', _, h⟩ := bind_eq_ok.mp h
      obtain ⟨pieces, hpieces, ⟨⟩⟩ := bind_eq_ok.mp h
      obtain ⟨hne, rfl⟩ := ih hpieces
      cases pieces with
      | nil => exact absurd rfl hne
      | cons piece pieces => cases pieces <;> simp [attach]

/-- A stretch of one entry, before which `d` parentheses are open, and after which `d'` are. -/
def Passes (d : Nat) (u : Text) (d' : Nat) : Prop :=
  ∀ t piece pieces, splitFrom d' t = .ok (piece :: pieces) →
    splitFrom d (u ++ t) = .ok ((u ++ piece) :: pieces)

theorem Passes.append (hu : Passes d u d') (hv : Passes d' v d'') : Passes d (u ++ v) d'' := by
  intro t piece pieces h
  rw [List.append_assoc, List.append_assoc]
  exact hu _ _ _ (hv t piece pieces h)

theorem passes_of_nest (h : nest c d = .ok d') (hc : ¬(c = ',' ∧ d = 0)) : Passes d [c] d' := by
  intro t piece pieces ht
  rw [List.singleton_append, splitFrom_cons hc]
  exact bind_eq_ok.mpr ⟨d', h, bind_eq_ok.mpr ⟨_, ht, rfl⟩⟩

/-- A character that neither opens nor closes a parenthesis, nor ends an entry. Inside parentheses a
comma does not. -/
def isQuiet (d : Nat) (c : Char) : Bool :=
  c != '(' && c != ')' && (c != ',' || d != 0)

theorem passes_quiet (h : ∀ c ∈ u, isQuiet d c = true) : Passes d u d := by
  induction u with
  | nil => exact fun t piece pieces h => h
  | cons c u ih =>
    obtain ⟨hc, hu⟩ := List.forall_mem_cons.mp h
    simp only [isQuiet, Bool.and_eq_true, Bool.or_eq_true, bne_iff_ne] at hc
    obtain ⟨⟨hopen, hclose⟩, hcomma⟩ := hc
    have hone : Passes d [c] d := passes_of_nest (by rw [nest, if_neg hopen, if_neg hclose]) (by tauto)
    exact hone.append (ih hu)

/-- Entries that close their own parentheses are found again between the commas. -/
theorem split_intercalate (hne : entries ≠ []) (h : ∀ u ∈ entries, Passes 0 u 0) :
    split ([','].intercalate entries) = .ok entries := by
  induction entries with
  | nil => exact absurd rfl hne
  | cons u entries ih =>
    obtain ⟨hu, hentries⟩ := List.forall_mem_cons.mp h
    cases entries with
    | nil =>
      have hend := hu [] [] [] rfl
      rw [List.append_nil] at hend
      rw [List.intercalate_singleton]
      exact hend
    | cons v entries =>
      have hrest := ih (by simp) hentries
      have hcomma : splitFrom 0 (',' :: [','].intercalate (v :: entries)) =
          .ok ([] :: v :: entries) := by
        rw [splitFrom_comma]
        exact bind_eq_ok.mpr ⟨_, hrest, rfl⟩
      have hcons := hu _ _ _ hcomma
      rw [List.append_nil] at hcons
      rw [List.intercalate_cons_cons, List.append_assoc]
      exact hcons

end Splitting

section Options

variable {t table : Text} {columns : List Text} {c : Char}

theorem parseFields_eq_ok_iff :
    parseFields t = .ok columns ↔ Separated ',' Name.Entry t columns :=
  Text.mapM_splitOn_iff (fun _ _ => Name.check_trim_iff)
    fun _ _ h => h.not_mem (by decide) (by decide)

def isOptionChar (c : Char) : Bool :=
  isBlank c || Text.isNameChar c || c == '$' || c == '=' || c == ','

theorem isOptionChar_of_entry {name : Text} (h : Name.Entry t name) (hc : c ∈ t) :
    isOptionChar c = true := by
  rcases h.chars c hc with hc | hc
  · simp [isOptionChar, hc]
  · simp [isOptionChar, hc]

theorem OptionEntry.chars (h : OptionEntry t columns) : ∀ c ∈ t, isOptionChar c = true := by
  obtain ⟨before, after, hbefore, hafter, ht⟩ := Text.padded_trim t
  have hblank : ∀ u : Text, u.isAllBlank = true → ∀ c ∈ u, isOptionChar c = true := by
    intro u hu c hc
    simp [isOptionChar, Text.isAllBlank_iff.mp hu c hc]
  have htrim : ∀ c ∈ Text.trim t, isOptionChar c = true := by
    cases h with
    | blank h => simp [h]
    | @select list _ h columnsOf =>
      have hlist : ∀ c ∈ list, isOptionChar c = true :=
        columnsOf.chars (by decide) fun _ _ h _ => isOptionChar_of_entry h
      rw [h]
      exact List.forall_mem_append.mpr ⟨List.all_eq_true.mp (by decide), hlist⟩
  rw [ht]
  exact List.forall_mem_append.mpr
    ⟨List.forall_mem_append.mpr ⟨hblank _ hbefore, htrim⟩, hblank _ hafter⟩

/-- Options that are blank do not count, and the others select what stands in them. -/
theorem parseOptions_trimmed_iff {raw : List Text} :
    parseOptions table ((raw.map Text.trim).filter fun option => !option.isEmpty) = .ok columns ↔
      ∃ selects, List.Forall₂ OptionEntry raw selects ∧ columns = selects.flatten := by
  induction raw generalizing columns with
  | nil =>
    constructor
    · rintro ⟨⟩
      exact ⟨[], .nil, rfl⟩
    · rintro ⟨_, ⟨⟩, rfl⟩
      rfl
  | cons option raw ih =>
    rw [List.map_cons, List.filter_cons]
    by_cases hblank : Text.trim option = []
    · rw [if_neg (by simp [hblank]), ih]
      constructor
      · rintro ⟨selects, hs, rfl⟩
        exact ⟨[] :: selects, .cons (.blank hblank) hs, rfl⟩
      · rintro ⟨_, ⟨⟩ | ⟨h, hs⟩, rfl⟩
        cases h with
        | blank _ => exact ⟨_, hs, rfl⟩
        | select h _ =>
          rw [hblank] at h
          cases h
    · rw [if_pos (by simp [hblank]), parseOptions]
      constructor
      · intro h
        split at h
        · cases h
        · rename_i list hlist
          obtain ⟨first, hfirst, h⟩ := bind_eq_ok.mp h
          obtain ⟨rest, hrest, ⟨⟩⟩ := bind_eq_ok.mp h
          obtain ⟨selects, hs, rfl⟩ := ih.mp hrest
          have hoption : OptionEntry option first :=
            .select (List.isPrefixOf?_eq_some_iff_append_eq.mp hlist).symm
              (parseFields_eq_ok_iff.mp hfirst)
          exact ⟨first :: selects, .cons hoption hs, rfl⟩
      · rintro ⟨_, ⟨⟩ | ⟨h, hs⟩, rfl⟩
        cases h with
        | blank h => exact absurd h hblank
        | select h columnsOf =>
          rw [List.isPrefixOf?_eq_some_iff_append_eq.mpr h.symm]
          exact bind_eq_ok.mpr ⟨_, parseFields_eq_ok_iff.mpr columnsOf,
            bind_eq_ok.mpr ⟨_, ih.mpr ⟨_, hs, rfl⟩, rfl⟩⟩

theorem parseOptions_eq_ok_iff :
    parseOptions table (splitOptions t) = .ok columns ↔
      ∃ selects, Separated ';' OptionEntry t selects ∧ columns = selects.flatten := by
  have hsemicolon : ∀ u selects, OptionEntry u selects → ';' ∉ u := by
    intro u selects h hc
    exact absurd (h.chars ';' hc) (by decide)
  simp only [splitOptions, parseOptions_trimmed_iff, Text.separated_iff hsemicolon]

end Options

section Entries

variable {t u v : Text} {x : Expansion}

theorem isQuiet_of_entry {c : Char} (h : isBlank c = true ∨ Text.isNameChar c = true) :
    isQuiet 0 c = true := by
  simp only [isQuiet, Bool.and_eq_true, Bool.or_eq_true, bne_iff_ne]
  refine ⟨⟨?_, ?_⟩, .inl ?_⟩
  all_goals
    rintro rfl
    exact absurd h (by decide)

theorem isQuiet_of_option {c : Char} (h : isOptionChar c = true) : isQuiet 1 c = true := by
  simp only [isQuiet, Bool.and_eq_true, Bool.or_eq_true, bne_iff_ne]
  refine ⟨⟨?_, ?_⟩, .inr (by decide)⟩
  all_goals
    rintro rfl
    exact absurd h (by decide)

theorem TableEntry.passes (h : TableEntry t x) : Passes 0 t 0 := by
  have hname : ∀ u name, Name.Entry u name → Passes 0 u 0 :=
    fun _ _ h => passes_quiet fun c hc => isQuiet_of_entry (h.chars c hc)
  cases h with
  | plain h => exact hname _ _ h
  | @withOptions name table options after selects h optionsOf hafter =>
    have hopen : Passes 0 ['('] 1 := passes_of_nest rfl (by simp)
    have hoptions : Passes 1 options 1 := passes_quiet <| optionsOf.chars (by decide)
      fun _ _ h c hc => isQuiet_of_option (h.chars c hc)
    have hclose : Passes 1 [')'] 0 := passes_of_nest rfl (by simp)
    have hblank : Passes 0 after 0 :=
      passes_quiet fun c hc => isQuiet_of_entry (.inl (Text.isAllBlank_iff.mp hafter c hc))
    exact ((hname _ _ h).append (hopen.append hoptions)).append (hclose.append hblank)

theorem tableEntry_of_parseEntry (h : parseEntry t = .ok x) : TableEntry t x := by
  unfold parseEntry at h
  dsimp only at h
  split at h
  · cases h
  split at h
  · obtain ⟨_, hcheck, ⟨⟩⟩ := bind_eq_ok.mp h
    exact .plain (Name.entry_iff.mpr ⟨rfl, Name.check_eq_ok hcheck⟩)
  · rename_i table rest hcut
    obtain ⟨_, hcheck, h⟩ := bind_eq_ok.mp h
    split at h
    · rename_i hlast
      obtain ⟨selects, hselects, ⟨⟩⟩ := bind_eq_ok.mp h
      obtain ⟨options, rfl⟩ := List.getLast?_eq_some_iff.mp hlast
      rw [List.dropLast_concat] at hselects
      obtain ⟨lists, hlists, rfl⟩ := parseOptions_eq_ok_iff.mp hselects
      -- The white space before the entry is white space before the table.
      obtain ⟨before, after, hbefore, hafter, ht⟩ := Text.padded_trim t
      rw [(Text.cut_eq_some_iff.mp hcut).1] at ht
      have hname : Name.Entry (before ++ table) (Text.trim table) :=
        ⟨Name.check_eq_ok hcheck, (Text.padded_trim table).append_left hbefore⟩
      have hentry := TableEntry.withOptions hname hlists hafter
      rw [ht]
      simpa using hentry
    · cases h

/-- Trimming an entry with options leaves its table in front and its parenthesis at the end. -/
theorem trim_withOptions {name table after : Text} (h : Name.Entry name table)
    (hafter : after.isAllBlank = true) (options : Text) :
    ∃ first, Name.Entry first table ∧
      Text.trim (name ++ '(' :: options ++ ')' :: after) = first ++ '(' :: (options ++ [')']) := by
  obtain ⟨hname, before, between, hbefore, hbetween, rfl⟩ := h
  refine ⟨table ++ between, ⟨hname, [], between, rfl, hbetween, rfl⟩, ?_⟩
  refine Text.Padded.trim_eq ⟨before, after, hbefore, hafter, by simp⟩ ⟨?_, ?_⟩
  · intro c hc
    have hne := Name.isIdentifier_ne_nil hname
    rw [List.append_assoc, List.head?_append_of_ne_nil _ hne] at hc
    have hchar := Name.isIdentifier_isName hname c (List.mem_of_mem_head? hc)
    exact Text.isBlank_of_isNameChar hchar
  · intro c hc
    have hlast : (table ++ between ++ '(' :: (options ++ [')'])).getLast? = some ')' := by
      rw [← List.cons_append, ← List.append_assoc, List.getLast?_concat]
    rw [hlast] at hc
    cases hc
    decide

theorem parseEntry_of_tableEntry (h : TableEntry t x) : parseEntry t = .ok x := by
  unfold parseEntry
  dsimp only
  cases h with
  | @plain _ table h =>
    obtain ⟨htrim, hname⟩ := Name.entry_iff.mp h
    have hparen : '(' ∉ table := by
      intro hc
      exact absurd (Name.isIdentifier_isName hname '(' hc) (by decide)
    rw [htrim, if_neg (by simpa using Name.isIdentifier_ne_nil hname),
      Text.cut_eq_none_iff.mpr hparen]
    exact bind_eq_ok.mpr ⟨(), Name.check_iff.mpr hname, rfl⟩
  | @withOptions name table options after selects h optionsOf hafter =>
    obtain ⟨first, hfirst, htrim⟩ := trim_withOptions h hafter options
    obtain ⟨htable, hname⟩ := Name.entry_iff.mp hfirst
    have hcut : Text.cut '(' (first ++ '(' :: (options ++ [')'])) =
        some (first, options ++ [')']) :=
      Text.cut_eq_some_iff.mpr ⟨rfl, hfirst.not_mem (by decide) (by decide)⟩
    rw [htrim, if_neg (by simp), hcut]
    dsimp only
    rw [htable, List.getLast?_concat, if_pos rfl, List.dropLast_concat]
    exact bind_eq_ok.mpr ⟨(), Name.check_iff.mpr hname,
      bind_eq_ok.mpr ⟨_, parseOptions_eq_ok_iff.mpr ⟨_, optionsOf, rfl⟩, rfl⟩⟩

theorem parseEntry_eq_ok_iff : parseEntry t = .ok x ↔ TableEntry t x :=
  ⟨tableEntry_of_parseEntry, parseEntry_of_tableEntry⟩

end Entries

/-- Expansions are read from a text exactly where it is a list of entries for them. -/
theorem parse_expansions_iff (t : Text) (xs : List Expansion) :
    parse t = .ok xs ↔ Separated ',' TableEntry t xs := by
  constructor
  · intro h
    unfold parse at h
    split at h
    · cases h
    · cases h
    · rename_i entries hsplit
      obtain ⟨hne, hjoined⟩ := splitFrom_joined hsplit
      refine ⟨entries, hne, hjoined.symm, ?_⟩
      exact (mapM_eq_ok.mp h).imp fun _ _ => parseEntry_eq_ok_iff.mp
  · rintro ⟨entries, hne, rfl, h⟩
    rw [parse, split_intercalate hne (Text.forall_left h fun _ _ => TableEntry.passes)]
    exact mapM_eq_ok.mpr (h.imp fun _ _ => parseEntry_eq_ok_iff.mpr)

end RequestSql.Expand
