import RequestSql.Proofs.Expansions
import RequestSql.Proofs.Groupings
import RequestSql.Proofs.RoundTrip
import RequestSql.Proofs.Tiling

namespace RequestSql

def TokenKind.isName : TokenKind → Bool
  | .identifier _ | .keyword _ => true
  | _ => false

def Text.IsAscii (t : Text) : Prop :=
  ∀ c ∈ t, c.toNat < 128

instance (t : Text) : Decidable t.IsAscii :=
  List.decidableBAll _ t

section Classes

open Text (IsAscii isNameStart isNamePart isNameWord)

variable {c : Char} {w name : Text}

theorem Text.isNameStart_of_lt (hc : c.toNat < 128) : isNameStart c = (c.isAlpha || c == '_') := by
  rw [isNameStart, isAlphabetic, if_pos hc]

theorem Text.isNamePart_of_lt (hc : c.toNat < 128) : isNamePart c = (c.isAlphanum || c == '_') := by
  rw [isNamePart, isAlphanumeric, isAlphabetic, isNumeric, if_pos hc, if_pos hc, Char.isAlphanum]

theorem Name.isWord_eq (ascii : w.IsAscii) : isWord w = isNameWord w := by
  cases w with
  | nil => rfl
  | cons c w =>
    obtain ⟨hc, hw⟩ := List.forall_mem_cons.mp ascii
    rw [isWord, isNameWord, Text.isNameStart_of_lt hc]
    congr 1
    rw [Bool.eq_iff_iff, List.all_eq_true, List.all_eq_true]
    exact forall₂_congr fun d hd => by rw [Text.isNamePart_of_lt (hw d hd)]

/-- On ASCII, an identifier consists of words as the lexer knows them. -/
theorem Name.isIdentifier_eq (ascii : name.IsAscii) :
    isIdentifier name = (Text.splitOn '.' name).all isNameWord := by
  rw [isIdentifier, Bool.eq_iff_iff, List.all_eq_true, List.all_eq_true]
  refine forall₂_congr fun w hw => ?_
  rw [isWord_eq fun c hc => ascii c (Text.mem_of_mem_splitBy hw hc).1]

theorem Name.isIdentifier_isAscii (h : isIdentifier name = true) : name.IsAscii := by
  intro c hc
  by_cases hpoint : c = '.'
  · rw [hpoint]
    decide
  · obtain ⟨w, hw, hcw⟩ := Text.mem_splitBy_of_mem (p := (· == '.')) hc (by simpa using hpoint)
    exact Text.toNat_lt_of_isAlphanum (isWord_chars (List.all_eq_true.mp h w hw) c hcw)

end Classes

namespace Lexer

open Text (isNameStart isNamePart isNameWord)

variable {c : Char} {t w rest : Text} {kind : TokenKind}

/-- What comes before the first point is a word where the text begins as one. -/
theorem isNameWord_of_head {ws : List Text} (hs : Text.splitOn '.' t = w :: ws)
    (hhead : t.head?.any isNameStart = true) (hw : w.all isNamePart = true) :
    isNameWord w = true := by
  cases t with
  | nil => cases hhead
  | cons c t =>
    have hc : isNameStart c = true := hhead
    obtain ⟨_, _, _, ⟨rfl, _, _⟩ | ⟨_, rfl, _⟩⟩ := Text.splitOn_cons hs
    · exact absurd hc (by decide)
    · rw [List.all_cons, Bool.and_eq_true] at hw
      rw [isNameWord, hc, hw.2, Bool.true_and]

/-- A name that was scanned is made of words: a point belongs to it only before a further word. -/
theorem words_of_nameTail {first : Text} {others : List Text} (h : nameTail (t ++ rest) = t)
    (hs : Text.splitOn '.' t = first :: others) :
    first.all isNamePart = true ∧ others.all isNameWord = true := by
  induction t generalizing first others with
  | nil =>
    cases hs
    exact ⟨rfl, rfl⟩
  | cons c t ih =>
    obtain ⟨htail, hc⟩ := nameTail_eq_cons.mp h
    obtain ⟨w, ws, hws, ⟨rfl, rfl, rfl⟩ | ⟨hpoint, rfl, rfl⟩⟩ := Text.splitOn_cons hs
    · obtain ⟨hw, hothers⟩ := ih htail hws
      have hnext : (t ++ rest).head?.any isNameStart = true := by
        rcases hc with hc | hc
        · exact absurd hc (by decide)
        · exact hc.2
      have hhead : t.head?.any isNameStart = true := by
        cases t with
        | cons d t => exact hnext
        | nil =>
          -- a name does not end before what it could go on with
          have hend := (nameTail_eq_nil.mp htail).1
          cases rest with
          | nil => exact hnext
          | cons d rest =>
            have hd : isNamePart d = true := isNamePart_of_isNameStart hnext
            exact absurd hd (Bool.eq_false_iff.mp hend)
      refine ⟨rfl, ?_⟩
      rw [List.all_cons, isNameWord_of_head hws hhead hw, hothers]
      rfl
    · obtain ⟨hw, hothers⟩ := ih htail hws
      refine ⟨?_, hothers⟩
      rw [List.all_cons, hw, Bool.and_true]
      exact hc.resolve_right fun hc => hpoint hc.1

theorem isName_nameKind (w : Text) : (nameKind w).isName = true := by
  unfold nameKind
  split
  · rfl
  · split <;> rfl

theorem isName_numberKind (sign whole fraction exponent : Text) :
    (numberKind sign whole fraction exponent).isName = false := by
  unfold numberKind integerKind
  dsimp only
  repeat' split
  all_goals rfl

/-- What is scanned as a name consists of words between points. -/
theorem Scanned.words (h : Scanned w kind rest) (hkind : kind.isName = true) :
    (Text.splitOn '.' w).all isNameWord = true ∧ kind = nameKind w := by
  cases h with
  | leftParen | rightParen | string | unterminated | malformed | unexpected => cases hkind
  | number =>
    rw [isName_numberKind] at hkind
    cases hkind
  | @name c tail _ start maximal =>
    refine ⟨?_, rfl⟩
    have hpart := isNamePart_of_isNameStart start
    have hall : nameTail (c :: tail ++ rest) = c :: tail :=
      nameTail_eq_cons.mpr ⟨maximal, .inl hpart⟩
    obtain ⟨first, others, hs⟩ := List.exists_cons_of_ne_nil (Text.splitOn_ne_nil '.' (c :: tail))
    obtain ⟨hfirst, hothers⟩ := words_of_nameTail hall hs
    rw [hs, List.all_cons, isNameWord_of_head hs start hfirst, hothers]
    rfl

/-- A text is scanned as a single name where it consists of words between points. -/
theorem tokenize_name_iff (t : Text) :
    (∃ kind, kind.isName = true ∧ tokenize t = [⟨kind, ⟨0, Text.byteSize t⟩⟩, endToken t]) ↔
      (Text.splitOn '.' t).all isNameWord = true := by
  constructor
  · rintro ⟨kind, hkind, h⟩
    have htokens : tokens t = [⟨kind, ⟨0, Text.byteSize t⟩⟩] :=
      (List.append_left_inj [endToken t]).mp h
    obtain ⟨u, w, v, ht, hspan, hw⟩ :=
      (tiled_tokensFrom 0 t).cut (htokens ▸ List.mem_singleton_self _)
    obtain ⟨hstart, hstop⟩ := Span.mk.inj hspan
    have hu : u = [] := by
      by_contra hne
      have := Text.byteSize_pos hne
      omega
    have hv : v = [] := by
      by_contra hne
      have := Text.byteSize_pos hne
      rw [ht, Text.byteSize_append] at hstop
      omega
    rw [hu, hv, List.nil_append, List.append_nil] at ht
    rw [ht]
    exact (hw.words hkind).1
  · intro h
    have htokens := (scans_name h breaks_nil).tokensFrom_eq 0
    rw [List.append_nil, Nat.zero_add] at htokens
    refine ⟨nameKind t, isName_nameKind t, ?_⟩
    rw [tokenize, tokens, htokens]
    rfl

end Lexer

/-- The fields of a filter are words between points, and none is reserved. -/
theorem Filter.isFieldName_of_parse {t name : Text} {e : Filter} (h : Filter.parse t = .ok e)
    (hname : name ∈ e.fields) : isFieldName name = true := by
  obtain ⟨_, _, hd, _, _⟩ := (Filter.parse_eq_ok t e).mp h
  obtain ⟨token, htoken, hkind⟩ := List.mem_map.mp (hd.field_mem hname)
  obtain ⟨_, w, _, _, _, hw⟩ := (Lexer.tiled_tokensFrom 0 t).cut htoken
  rw [hkind] at hw
  obtain rfl : w = name := hw.isLexeme
  obtain ⟨hwords, hidentifier⟩ := hw.words rfl
  rw [isFieldName, hwords, Bool.true_and, Bool.or_eq_true, List.contains_iff_mem,
    Option.isNone_iff_eq_none]
  unfold Lexer.nameKind at hidentifier
  split at hidentifier
  · exact .inl ‹_›
  · split at hidentifier
    · cases hidentifier
    · exact .inr ‹_›

/-- A name in a value that a directive accepts: a column, a sort key, a table to expand or a column of
it, a group key, what an aggregate is computed from or what it is called, a field of a filter. -/
inductive Directive.Accepts : Directive → Text → Prop where
  | column {value name columns} (parsed : Select.parse value = .ok columns)
      (mem : .field name ∈ columns) : Accepts .select name
  | sortKey {value keys} {key : SortKey} (parsed : OrderBy.parse value = .ok keys)
      (mem : key ∈ keys) : Accepts .orderBy key.field
  | table {value expansions} {e : Expansion} (parsed : Expand.parse value = .ok expansions)
      (mem : e ∈ expansions) : Accepts .expand e.table
  | tableColumn {value name expansions} {e : Expansion}
      (parsed : Expand.parse value = .ok expansions) (mem : e ∈ expansions)
      (selected : name ∈ e.selects) : Accepts .expand name
  | groupKey {value name} {g : Grouping} (parsed : Apply.parse value = .ok g)
      (mem : name ∈ g.fields) : Accepts .apply name
  | aggregated {value name} {g : Grouping} {a : Aggregate} (parsed : Apply.parse value = .ok g)
      (mem : a ∈ g.aggregates) (operand : a.operand = .field name) : Accepts .apply name
  | result {value} {g : Grouping} {a : Aggregate} (parsed : Apply.parse value = .ok g)
      (mem : a ∈ g.aggregates) : Accepts .apply a.aliasName
  | field {value name} {e : Filter} (parsed : Filter.parse value = .ok e)
      (mem : name ∈ e.fields) : Accepts .filter name

theorem Directive.Accepts.isIdentifier {d : Directive} {name : Text} (h : d.Accepts name)
    (hd : d ≠ .filter) : Name.isIdentifier name = true := by
  cases h with
  | column parsed mem =>
    rcases Select.parse_names parsed _ mem with hall | ⟨_, hfield, hname⟩
    · cases hall
    · cases hfield
      exact hname
  | sortKey parsed mem => exact (OrderBy.parse_names parsed _ mem).1
  | table parsed mem => exact (Expand.parse_names parsed _ mem).1
  | tableColumn parsed mem selected => exact (Expand.parse_names parsed _ mem).2 _ selected
  | groupKey parsed mem => exact (Apply.parse_names parsed).1 _ mem
  | aggregated parsed mem operand =>
    rcases ((Apply.parse_names parsed).2 _ mem).operand with hrows | ⟨_, hfield, hname⟩
    · cases hrows.symm.trans operand
    · cases hfield.symm.trans operand
      exact hname
  | result parsed mem => exact ((Apply.parse_names parsed).2 _ mem).aliasName
  | field _ _ => exact absurd rfl hd

structure Name.Listed (name : Text) : Prop where
  select : Select.parse name = .ok [.field name]
  orderBy : OrderBy.parse name = .ok [{ field := name }]
  expand : Expand.parse (name ++ "($select=".toList ++ name ++ [')']) =
    .ok [{ table := name, selects := [name] }]
  apply : Apply.parse ("groupby((".toList ++ name ++ "), aggregate(".toList ++ name ++
    " with max as most))".toList) =
      .ok { fields := [name], aggregates := [⟨.field name, .max, "most".toList⟩] }

namespace Name

section Listing

variable {name : Text}

theorem entry_self (h : isIdentifier name = true) : Entry name name :=
  ⟨h, [], [], rfl, rfl, (List.append_nil _).symm⟩

theorem isBlank_of_isIdentifier (h : isIdentifier name = true) :
    ∀ c ∈ name, Text.isBlank c = false :=
  fun c hc => Text.isBlank_of_isNameChar (isIdentifier_isName h c hc)

/-- An identifier by itself is one entry. -/
theorem splitOn_isIdentifier (h : isIdentifier name = true) : Text.splitOn ',' name = [name] :=
  Text.splitOn_of_not_mem ((entry_self h).not_mem (by decide) (by decide))

theorem select_isIdentifier (h : isIdentifier name = true) :
    Select.parse name = .ok [.field name] := by
  have hentry : Select.parseEntry name = .ok (.field name) := by
    have hne : name ≠ ['*'] := by
      rintro rfl
      exact absurd h (by decide)
    unfold Select.parseEntry
    dsimp only
    rw [(entry_iff.mp (entry_self h)).1, if_neg hne]
    exact bind_eq_ok.mpr ⟨(), check_iff.mpr h, rfl⟩
  rw [Select.parse, splitOn_isIdentifier h]
  exact mapM_eq_ok.mpr (.cons hentry .nil)

theorem worded_append (h : isIdentifier name = true) {t : Text} {ws : List Text}
    (apart : ∀ c ∈ t.head?, Text.isBlank c = true) (ht : Text.Worded t ws) :
    Text.Worded (name ++ t) (name :: ws) :=
  ht.append_word (isIdentifier_ne_nil h) (isBlank_of_isIdentifier h) apart

theorem orderBy_isIdentifier (h : isIdentifier name = true) :
    OrderBy.parse name = .ok [{ field := name }] := by
  have hword := worded_append h (t := []) (by simp) (.blank rfl)
  rw [List.append_nil] at hword
  have hentry : OrderBy.parseEntry name = .ok { field := name } := by
    rw [OrderBy.parseEntry, Text.words_eq_iff.mpr hword]
    exact bind_eq_ok.mpr ⟨(), check_iff.mpr h, rfl⟩
  rw [OrderBy.parse, splitOn_isIdentifier h]
  exact mapM_eq_ok.mpr (.cons hentry .nil)

theorem expand_isIdentifier (h : isIdentifier name = true) :
    Expand.parse (name ++ "($select=".toList ++ name ++ [')']) =
      .ok [{ table := name, selects := [name] }] := by
  have hoption : Expand.OptionEntry ("$select=".toList ++ name) [name] := by
    have hstart : "$select=".toList.all (!Text.isBlank ·) = true := by
      decide
    have hword : ∀ c ∈ "$select=".toList ++ name, Text.isBlank c = false :=
      List.forall_mem_append.mpr
        ⟨fun c hc => by simpa using List.all_eq_true.mp hstart c hc, isBlank_of_isIdentifier h⟩
    have hpadded : Text.Padded ("$select=".toList ++ name) ("$select=".toList ++ name) :=
      ⟨[], [], rfl, rfl, (List.append_nil _).symm⟩
    exact .select (hpadded.trim_eq (.of_word hword)) (.single (entry_self h))
  have hentry : Expand.TableEntry (name ++ '(' :: ("$select=".toList ++ name) ++ [')'])
      { table := name, selects := [[name]].flatten } :=
    .withOptions (entry_self h) (.single hoption) rfl
  have htext : name ++ "($select=".toList ++ name ++ [')'] =
      [','].intercalate [name ++ '(' :: ("$select=".toList ++ name) ++ [')']] := by
    simp
  rw [Expand.parse, htext, Expand.split_intercalate (by simp) (by simpa using hentry.passes)]
  exact mapM_eq_ok.mpr (.cons (Expand.parseEntry_eq_ok_iff.mpr hentry) .nil)

theorem apply_isIdentifier (h : isIdentifier name = true) :
    Apply.parse ("groupby((".toList ++ name ++ "), aggregate(".toList ++ name ++
      " with max as most))".toList) =
        .ok { fields := [name], aggregates := [⟨.field name, .max, "most".toList⟩] } := by
  have hrest : Text.Worded " with max as most".toList
      ["with".toList, "max".toList, "as".toList, "most".toList] :=
    Text.words_eq_iff.mp (by decide)
  have hspace : ∀ c ∈ " with max as most".toList.head?, Text.isBlank c = true := by
    rintro c ⟨⟩
    decide
  have haggregate : Apply.AggregateEntry (name ++ " with max as most".toList)
      ⟨.field name, .max, "most".toList⟩ :=
    .words (worded_append h hspace hrest) (.field h) (by decide) (by decide)
  have hfields : Text.Separated ',' Entry name [name] := .single (entry_self h)
  have haggregates : Text.Separated ',' Apply.AggregateEntry (name ++ " with max as most".toList)
      [⟨.field name, .max, "most".toList⟩] := .single haggregate
  have hflat := Apply.isFlat_of_separated (fun _ _ h _ => Apply.isEntryChar_of_entry h) hfields
  have hflat' := Apply.isFlat_of_separated
    (fun _ _ h _ => Apply.isEntryChar_of_aggregateEntry h) haggregates
  have hshape : Apply.Shaped name (name ++ " with max as most".toList)
      ("groupby((".toList ++ name ++ "), aggregate(".toList ++ name ++
        " with max as most))".toList) :=
    ⟨[], [], [], [' '], [], [], by decide, by simp⟩
  rw [Apply.parse, Apply.shape_eq_some_iff.mpr ⟨hshape, hflat, hflat'⟩]
  refine bind_eq_ok.mpr ⟨[name], ?_, bind_eq_ok.mpr ⟨[_], ?_, rfl⟩⟩
  · rw [splitOn_isIdentifier h]
    exact mapM_eq_ok.mpr (.cons (Apply.parseField_eq_ok_iff.mpr (entry_self h)) .nil)
  · have hcomma := Apply.comma_not_mem fun c => Apply.isEntryChar_of_aggregateEntry haggregate
    rw [Text.splitOn_of_not_mem hcomma]
    exact mapM_eq_ok.mpr (.cons (Apply.parseAggregate_eq_ok_iff.mpr haggregate) .nil)

theorem listed_of_isIdentifier (h : isIdentifier name = true) : Listed name where
  select := select_isIdentifier h
  orderBy := orderBy_isIdentifier h
  expand := expand_isIdentifier h
  apply := apply_isIdentifier h

end Listing

end Name

/-- A text is an identifier where it is ASCII and the lexer takes all of it as one name. What a list
of columns or tables accepts can be compared in a filter unless it is reserved, and what is compared
in a filter is accepted there if it is ASCII. -/
theorem identifiers_agree (name : Text) :
    (Name.isIdentifier name = true ↔ name.IsAscii ∧ ∃ kind, kind.isName = true ∧
      Lexer.tokenize name = [⟨kind, ⟨0, Text.byteSize name⟩⟩, Lexer.endToken name]) ∧
    (∀ d ∈ [Directive.select, .orderBy, .expand, .apply], d.Accepts name →
      Keyword.ofText? name = none → ∀ op value, value.isFloat = false →
        Filter.parse (Filter.comparison name op value).print =
          .ok (.comparison name op value)) ∧
    (Directive.filter.Accepts name → Keyword.ofText? name = none ∧
      (name.IsAscii → Name.Listed name)) := by
  refine ⟨?_, ?_, ?_⟩
  · rw [Lexer.tokenize_name_iff]
    constructor
    · intro h
      have ascii := Name.isIdentifier_isAscii h
      exact ⟨ascii, Name.isIdentifier_eq ascii ▸ h⟩
    · rintro ⟨ascii, h⟩
      rwa [Name.isIdentifier_eq ascii]
  · intro d hd accepts unreserved op value hvalue
    have hname := accepts.isIdentifier fun h => absurd (h ▸ hd) (by decide)
    have hfield : Filter.isFieldName name = true := by
      rw [Name.isIdentifier_eq (Name.isIdentifier_isAscii hname)] at hname
      rw [Filter.isFieldName, hname, unreserved]
      simp
    exact Filter.parse_comparison hfield op (Value.scans_inline hvalue Lexer.breaks_nil)
      (literal_kind value)
  · rintro (_ | _ | _ | _ | _ | _ | _ | ⟨parsed, mem⟩)
    have hfield := Filter.isFieldName_of_parse parsed mem
    refine ⟨Lexer.ofText_isFieldName hfield, fun ascii => Name.listed_of_isIdentifier ?_⟩
    rw [Filter.isFieldName, Bool.and_eq_true] at hfield
    rw [Name.isIdentifier_eq ascii]
    exact hfield.1

/-- Words that are reserved by themselves make up a name that is not. -/
theorem identifiers_agree_qualified :
    Name.isIdentifier "null.eq".toList = true ∧ Name.Listed "null.eq".toList ∧
      Filter.parse "null.eq ne NULL".toList = .ok (.comparison "null.eq".toList .ne .null) := by
  have hascii : Text.IsAscii "null.eq".toList := by
    decide
  have htokens : Lexer.tokenize "null.eq".toList = [⟨.identifier "null.eq".toList, ⟨0, 7⟩⟩,
      Lexer.endToken "null.eq".toList] := by
    decide +kernel
  have hparse : Filter.parse "not null.eq gt 1".toList =
      .ok (.not (.comparison "null.eq".toList .gt (.int 1))) := by
    decide +kernel
  have hprint : (Filter.comparison "null.eq".toList .ne .null).print = "null.eq ne NULL".toList := by
    decide
  obtain ⟨hidentifier, hcolumn, hfilter⟩ := identifiers_agree "null.eq".toList
  obtain ⟨unreserved, hlisted⟩ := hfilter (.field hparse (by decide))
  have hselected : Directive.select.Accepts "null.eq".toList :=
    .column (hlisted hascii).select (by decide)
  have hcompared := hcolumn .select (by decide) hselected unreserved .ne .null rfl
  rw [hprint] at hcompared
  exact ⟨hidentifier.mpr ⟨hascii, _, rfl, htokens⟩, hlisted hascii, hcompared⟩

end RequestSql
