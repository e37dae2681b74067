import RequestSql.Proofs.Boundaries
import RequestSql.Proofs.Scanning
import RequestSql.Proofs.Unambiguity

namespace RequestSql

open Text (isBlank isNameStart isNameChar Breaks)

namespace Condition

def isSymbol (c : Char) : Bool :=
  c == '<' || c == '=' || c == '>'

def comparison? : Text → Option CompareOp
  | ['='] => some .eq
  | ['<', '>'] => some .ne
  | ['>'] => some .gt
  | ['>', '='] => some .ge
  | ['<'] => some .lt
  | ['<', '='] => some .le
  | _ => none

def wordKind (word : Text) : TokenKind :=
  match Keyword.ofText? word with
  | some .and => .keyword .and
  | some .or => .keyword .or
  | some .not => .keyword .not
  | _ => .identifier word

def scan? (c : Char) (rest : Text) : Option (TokenKind × Nat) :=
  if c = '(' then some (.leftParen, 0)
  else if c = ')' then some (.rightParen, 0)
  else if isSymbol c then
    let more := rest.takeWhile isSymbol
    (comparison? (c :: more)).map fun op => (.keyword op.keyword, more.length)
  else if isNameStart c then
    let more := rest.takeWhile isNameChar
    some (wordKind (c :: more), more.length)
  else none

/-- The kinds of the tokens of a condition, when its first `skip` characters belong to a token
already read. Each question mark is the literal of the next value, and no value is left over. -/
def kindsFrom? (skip : Nat) : Text → List Value → Option (List TokenKind)
  | [], values => if values.isEmpty then some [] else none
  | c :: rest, values =>
    match skip with
    | skip + 1 => kindsFrom? skip rest values
    | 0 =>
      if isBlank c then kindsFrom? 0 rest values
      else if c = '?' then
        values.head?.bind fun value => (kindsFrom? 0 rest values.tail).map (value.kind :: ·)
      else (scan? c rest).bind fun token => (kindsFrom? token.2 rest values).map (token.1 :: ·)

def kinds? (sql : Text) (values : List Value) : Option (List TokenKind) :=
  kindsFrom? 0 sql values

/-- A filter that a condition with values for its question marks stands for: NOT binds tighter than
AND and AND tighter than OR, a chain of connectives is folded to the left, and parentheses group. -/
def Reads (sql : Text) (values : List Value) (e : Filter) : Prop :=
  ∃ w d n, kinds? sql values = some w ∧ Derives .disjunction w e d n

/-- A text with values has the kinds `w` of tokens, and what follows after a break is read on its
own. -/
def Spelled (t : Text) (values : List Value) (w : List TokenKind) : Prop :=
  ∀ rest more, Breaks rest → kinds? (t ++ rest) (values ++ more) = (kinds? rest more).map (w ++ ·)

section Tokens

variable {c : Char} {t u rest : Text} {values : List Value} {v w : List TokenKind}

theorem kindsFrom_skip (t rest : Text) (values : List Value) :
    kindsFrom? t.length (t ++ rest) values = kinds? rest values := by
  induction t with
  | nil => rfl
  | cons c t ih => rw [List.cons_append, List.length_cons, kindsFrom?, ih]

theorem kinds_space (t : Text) (values : List Value) :
    kinds? (' ' :: t) values = kinds? t values := by
  rw [kinds?, kindsFrom?, if_pos (by decide)]
  rfl

theorem kinds_placeholder (t : Text) (value : Value) (values : List Value) :
    kinds? ('?' :: t) (value :: values) = (kinds? t values).map (value.kind :: ·) := by
  rw [kinds?, kindsFrom?, if_neg (by decide), if_pos rfl]
  rfl

theorem kinds_scan {kind : TokenKind} (hb : isBlank c = false) (hq : c ≠ '?')
    (h : scan? c (t ++ rest) = some (kind, t.length)) :
    kinds? (c :: t ++ rest) values = (kinds? rest values).map (kind :: ·) := by
  rw [List.cons_append, kinds?, kindsFrom?, if_neg (by simp [hb]), if_neg hq, h,
    Option.bind_some, kindsFrom_skip]

/-- A run of characters ends at a break, where no break belongs to the run. -/
theorem takeWhile_breaks {p : Char → Bool} (ht : ∀ c ∈ t, p c = true) (hrest : Breaks rest)
    (hp : ∀ c, isBlank c = true ∨ c = '(' ∨ c = ')' → p c = false) :
    (t ++ rest).takeWhile p = t := by
  rw [List.takeWhile_append_of_pos ht]
  cases rest with
  | nil => simp
  | cons c rest => simp [hp c (hrest c rfl)]

theorem spelled_placeholder (value : Value) : Spelled ['?'] [value] [value.kind] :=
  fun rest more _ => kinds_placeholder rest value more

theorem spelled_word (hstart : t.head?.any isNameStart = true) (hchars : t.all isNameChar = true) :
    Spelled t [] [wordKind t] := by
  intro rest more hrest
  obtain ⟨c, tail, rfl, hfirst⟩ : ∃ c tail, t = c :: tail ∧ isNameStart c = true := by
    cases t with
    | nil => cases hstart
    | cons c tail => exact ⟨c, tail, rfl, hstart⟩
  rw [List.all_cons, Bool.and_eq_true, List.all_eq_true] at hchars
  obtain ⟨hc, htail⟩ := hchars
  have hother : ∀ d, isNameChar d = false → c ≠ d := fun d hd => Text.ne_of_class hc hd
  have hsymbol : isSymbol c = false := by
    simp [isSymbol, hother '<' (by decide), hother '=' (by decide), hother '>' (by decide)]
  have hrun : (tail ++ rest).takeWhile isNameChar = tail :=
    takeWhile_breaks htail hrest fun d hd => (Lexer.isNameChar_of_breaks hd).1
  refine kinds_scan (Text.isBlank_of_isNameChar hc) (hother '?' (by decide)) ?_
  rw [scan?, if_neg (hother '(' (by decide)), if_neg (hother ')' (by decide)),
    if_neg (by simp [hsymbol]), if_pos hfirst, hrun]

theorem isSymbol_of_breaks {c : Char} (h : isBlank c = true ∨ c = '(' ∨ c = ')') :
    isSymbol c = false := by
  rw [← Bool.not_eq_true]
  intro hs
  simp only [isSymbol, Bool.or_eq_true, beq_iff_eq] at hs
  rcases hs with (rfl | rfl) | rfl
  all_goals exact absurd h (by decide)

theorem spelled_operator (op : CompareOp) : Spelled op.sql [] [.keyword op.keyword] := by
  intro rest more hrest
  have hsymbols : op.sql.all isSymbol = true := by cases op <;> decide
  have hread : comparison? op.sql = some op := by cases op <;> rfl
  obtain ⟨c, tail, hop⟩ : ∃ c tail, op.sql = c :: tail := by cases op <;> exact ⟨_, _, rfl⟩
  rw [hop] at hsymbols hread ⊢
  rw [List.all_cons, Bool.and_eq_true, List.all_eq_true] at hsymbols
  obtain ⟨hc, htail⟩ := hsymbols
  have hother : ∀ d, isSymbol d = false → c ≠ d := fun d hd => Text.ne_of_class hc hd
  have hblank : isBlank c = false := by
    rw [← Bool.not_eq_true]
    intro hb
    rw [isSymbol_of_breaks (.inl hb)] at hc
    cases hc
  have hrun : (tail ++ rest).takeWhile isSymbol = tail :=
    takeWhile_breaks htail hrest fun d hd => isSymbol_of_breaks hd
  refine kinds_scan hblank (hother '?' (by decide)) ?_
  rw [scan?, if_neg (hother '(' (by decide)), if_neg (hother ')' (by decide)), if_pos hc, hrun]
  dsimp only
  rw [hread, Option.map_some]

theorem Spelled.space {values' : List Value} (ht : Spelled t values v)
    (hu : Spelled u values' w) : Spelled (t ++ ' ' :: u) (values ++ values') (v ++ w) := by
  intro rest more hrest
  rw [List.append_assoc, List.append_assoc, List.cons_append, ht _ _ (Lexer.breaks_space _),
    kinds_space, hu rest more hrest, Option.map_map]
  congr 1
  funext x
  exact (List.append_assoc v w x).symm

theorem Spelled.parentheses (ht : Spelled t values w) :
    Spelled ('(' :: t ++ [')']) values (.leftParen :: w ++ [.rightParen]) := by
  intro rest more hrest
  have hopen : ∀ u vs, kinds? ('(' :: u) vs = (kinds? u vs).map (.leftParen :: ·) :=
    fun u vs => kinds_scan (t := []) (by decide) (by decide) rfl
  have hclose : ∀ u vs, kinds? (')' :: u) vs = (kinds? u vs).map (.rightParen :: ·) :=
    fun u vs => kinds_scan (t := []) (by decide) (by decide) rfl
  rw [List.append_assoc, List.cons_append, List.singleton_append, hopen,
    ht _ _ (Lexer.breaks_cons (by decide)), hclose, Option.map_map, Option.map_map]
  congr 1
  funext x
  simp

end Tokens

/-- A text with values means a filter, within a layer of the grammar. -/
def Means (layer : Layer) (t : Text) (values : List Value) (e : Filter) : Prop :=
  ∃ w d n, Spelled t values w ∧ Derives layer w e d n

section Filters

variable {t u : Text} {values values' : List Value} {e l r : Filter}

theorem Means.single (h : Means .unary t values e) : Means .disjunction t values e := by
  obtain ⟨w, d, n, hs, hd⟩ := h
  exact ⟨w, d, n, hs, .single (.operand hd)⟩

theorem Means.parentheses (h : Means .disjunction t values e) :
    Means .unary ('(' :: t ++ [')']) values e := by
  obtain ⟨w, d, n, hs, hd⟩ := h
  exact ⟨_, _, _, hs.parentheses, .plain (.parentheses hd)⟩

theorem spelled_connective (op : LogicalOp) : Spelled op.sql [] [.keyword op.keyword] := by
  have hkind : wordKind op.sql = .keyword op.keyword := by cases op <;> decide
  rw [← hkind]
  cases op with
  | and => exact spelled_word (by decide) (by decide)
  | or => exact spelled_word (by decide) (by decide)

theorem Means.logical (op : LogicalOp) (hl : Means .unary t values l)
    (hr : Means .unary u values' r) :
    Means .disjunction (t ++ ' ' :: (op.sql ++ ' ' :: u)) (values ++ values') (.logical op l r) := by
  obtain ⟨v, _, _, hv, hl⟩ := hl
  obtain ⟨w, _, _, hw, hr⟩ := hr
  exact ⟨_, _, _, hv.space ((spelled_connective op).space hw), hl.joined op hr⟩

theorem Means.not (h : Means .unary t values e) :
    Means .unary ("NOT".toList ++ ' ' :: t) values (.not e) := by
  obtain ⟨w, _, _, hw, he⟩ := h
  have hnot : Spelled "NOT".toList [] [.keyword .not] :=
    spelled_word (by decide) (by decide)
  exact ⟨_, _, _, hnot.space hw, he.not⟩

theorem means_comparison {field : Text} (hf : Filter.isFieldName field = true) (op : CompareOp)
    (value : Value) :
    Means .unary (field ++ ' ' :: (op.sql ++ ' ' :: ['?'])) [value] (.comparison field op value) := by
  obtain ⟨hstart, hchars⟩ := Lexer.isFieldName_chars hf
  have hfield := spelled_word hstart hchars
  have hkind : wordKind field = .identifier field := by
    rw [wordKind, Lexer.ofText_isFieldName hf]
  rw [hkind] at hfield
  exact ⟨_, _, _, hfield.space ((spelled_operator op).space (spelled_placeholder value)),
    .plain (.comparison (operator_keyword op) (literal_kind value))⟩

end Filters

end Condition

namespace Filter

open Condition Fragment

/-- The SQL of a filter means the filter, and so does what stands in its parentheses. -/
theorem means_render (e : Filter) (he : ∀ field ∈ e.fields, isFieldName field = true) (n : Nat) :
    Means .unary (renderFrom .mysql n e.fragment) e.values e ∧
      Means .disjunction (renderFrom .mysql n e.body) e.values e := by
  induction e generalizing n with
  | comparison field op value =>
    have hrender := render_comparison .mysql n [] field op value
    have h : Means .unary (renderFrom .mysql n (comparison field op value).fragment) [value]
        (comparison field op value) := by
      rw [List.append_nil] at hrender
      rw [hrender]
      exact means_comparison (he field (List.mem_singleton.mpr rfl)) op value
    exact ⟨h, h.single⟩
  | logical op l r ihl ihr =>
    have hl := (ihl (fun f hf => he f (List.mem_append_left _ hf)) n).1
    have hr := (ihr (fun f hf => he f (List.mem_append_right _ hf)) (n + l.fragment.params.length)).1
    have hbody : Means .disjunction (renderFrom .mysql n (logical op l r).body)
        (logical op l r).values (logical op l r) := by
      rw [body, renderFrom_append]
      simpa [renderFrom, values] using hl.logical op hr
    have hrender := render_logical .mysql n [] op l r
    rw [List.append_nil, renderFrom_append] at hrender
    refine ⟨?_, hbody⟩
    rw [hrender]
    exact hbody.parentheses
  | not inner ih =>
    have hrender := render_not .mysql n [] inner
    rw [List.append_nil, renderFrom_append] at hrender
    have h : Means .unary (renderFrom .mysql n (not inner).fragment) inner.values (not inner) := by
      rw [hrender]
      exact (ih he n).2.parentheses.not
    exact ⟨h, h.single⟩

theorem reads_build (e : Filter) (he : ∀ field ∈ e.fields, isFieldName field = true) :
    Reads e.build.1 e.build.2 e := by
  obtain ⟨w, d, n, hw, hd⟩ := (e.means_render he 1).1.single
  have hend := hw [] [] (fun c hc => by cases hc)
  rw [List.append_nil, List.append_nil] at hend
  refine ⟨w, d, n, ?_, hd⟩
  rw [build, params_fragment, render, hend]
  exact congrArg some (List.append_nil w)

/-- The SQL of a filter is read as this filter and as no other one. So a filter is told from its SQL
and its values. -/
theorem build_reads_back (e : Filter) (he : ∀ field ∈ e.fields, isFieldName field = true) :
    (∀ e', Reads e.build.1 e.build.2 e' ↔ e' = e) ∧
      ∀ e', (∀ field ∈ e'.fields, isFieldName field = true) → e'.build = e.build → e' = e := by
  have hunique : ∀ e', Reads e.build.1 e.build.2 e' → e' = e := by
    rintro e' ⟨w, _, _, hw, hd⟩
    obtain ⟨w', _, _, hw', hd'⟩ := e.reads_build he
    rw [hw', Option.some.injEq] at hw
    exact (hw ▸ hd).unique hd'
  refine ⟨fun e' => ⟨hunique e', ?_⟩, fun e' he' hb => hunique e' ?_⟩
  · rintro rfl
    exact e'.reads_build he
  · rw [← hb]
    exact e'.reads_build he'

def declined : Filter :=
  .not (.logical .and (.not (.not (.comparison "a.or".toList .ge (.int 1))))
    (.logical .or (.comparison "b".toList .ne (.text "?".toList)) (.comparison "b".toList .lt .null)))

theorem build_reads_back_declined :
    declined.build = ("NOT (NOT (NOT (a.or >= ?)) AND (b <> ? OR b < ?))".toList,
      [.int 1, .text "?".toList, .null]) ∧
    ∀ e, Reads declined.build.1 declined.build.2 e ↔ e = declined :=
  ⟨by decide, (build_reads_back declined (by decide)).1⟩

end Filter

end RequestSql
