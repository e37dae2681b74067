import Mathlib.Data.Nat.Digits.Defs
import RequestSql.Proofs.Placeholders
import RequestSql.Proofs.RoundTrip
import RequestSql.Proofs.Tiling

namespace RequestSql

open Text (Breaks)

/-- Decimal digits, possibly after a minus sign. Zeros in front are allowed. -/
structure Numeral where
  negative : Bool
  digits : Text
  nonempty : digits ≠ []
  decimal : ∀ c ∈ digits, c.isDigit = true

namespace Numeral

def text (n : Numeral) : Text :=
  (if n.negative then ['-'] else []) ++ n.digits

def magnitude (n : Numeral) : Nat :=
  Nat.ofDigits 10 (n.digits.reverse.map fun c => c.toNat - '0'.toNat)

def value (n : Numeral) : Int :=
  if n.negative then -(n.magnitude : Int) else n.magnitude

def Fits (n : Numeral) : Prop :=
  -2 ^ 63 ≤ n.value ∧ n.value ≤ 2 ^ 63 - 1

instance (n : Numeral) : Decidable n.Fits :=
  inferInstanceAs (Decidable (_ ∧ _))

end Numeral

/-- A token for a numeral: its value if that fits, and an error if not. -/
structure TokenKind.Exact (kind : TokenKind) (n : Numeral) : Prop where
  integer : n.Fits → ∃ x : Int64, kind = .integer x ∧ x.toInt = n.value
  error : ¬n.Fits → ∃ e, kind = .error e

namespace Numeral

section Scanning

theorem digitsValue_eq_magnitude (n : Numeral) : Text.digitsValue n.digits = n.magnitude := by
  rw [magnitude]
  induction n.digits using List.reverseRecOn with
  | nil => rfl
  | append_singleton digits c ih =>
    have hlast : Text.digitsValue [c] = c.toNat - '0'.toNat := Nat.zero_add _
    rw [Text.digitsValue_append, ih, hlast, List.reverse_append, List.reverse_singleton,
      List.singleton_append, List.map_cons, Nat.ofDigits_cons]
    simp only [List.length_singleton, Nat.pow_one]
    omega

def kind (n : Numeral) : TokenKind :=
  Lexer.integerKind n.negative n.digits

/-- The magnitude is checked against the limit of its sign; the two limits differ by one. -/
theorem kind_eq (n : Numeral) : n.kind = if n.Fits then .integer (Int64.ofInt n.value)
    else .error (if n.negative then .integerTooSmall else .integerTooLarge) := by
  rw [kind, Lexer.integerKind, n.digitsValue_eq_magnitude]
  cases hsign : n.negative with
  | true =>
    have hvalue : n.value = -(n.magnitude : Int) := by
      rw [value, hsign, if_pos rfl]
    have hfits : n.magnitude ≤ 0x8000000000000000 ↔ n.Fits := by
      rw [Fits, hvalue]
      omega
    simp only [hvalue, hfits, if_true]
  | false =>
    have hvalue : n.value = n.magnitude := by
      rw [value, hsign, if_neg Bool.false_ne_true]
    have hfits : n.magnitude < 0x8000000000000000 ↔ n.Fits := by
      rw [Fits, hvalue]
      omega
    simp only [hvalue, hfits, Bool.false_eq_true, if_false]

theorem exact_kind (n : Numeral) : n.kind.Exact n := by
  rw [n.kind_eq]
  constructor
  · intro hfits
    rw [if_pos hfits]
    exact ⟨_, rfl, Int64.toInt_ofInt_of_le hfits.1 (Int.lt_of_le_sub_one hfits.2)⟩
  · intro hfits
    rw [if_neg hfits]
    exact ⟨_, rfl⟩

theorem scans (n : Numeral) {rest : Text} (hrest : Breaks rest) :
    Lexer.Scans n.text n.kind rest := by
  rw [text, kind]
  cases n.negative with
  | true => exact Lexer.scans_digits (.inr rfl) n.nonempty n.decimal hrest
  | false => exact Lexer.scans_digits (.inl rfl) n.nonempty n.decimal hrest

theorem text_ne_nil (n : Numeral) : n.text ≠ [] := by
  simp [text, n.nonempty]

theorem tokenize_append (n : Numeral) {after : Text} (hafter : Breaks after) :
    ∃ ts, Lexer.tokenize (n.text ++ after) = ⟨n.kind, ⟨0, Text.byteSize n.text⟩⟩ :: ts := by
  rw [Lexer.tokenize, Lexer.tokens, (n.scans hafter).tokensFrom_eq, Nat.zero_add]
  exact ⟨_, rfl⟩

end Scanning

section Filters

variable {n : Numeral} {t : Text} {e : Filter}

/-- A numeral in a filter that is accepted is one that fits. -/
theorem fits_of_parse (h : Filter.parse t = .ok e)
    (hm : n.kind ∈ (Lexer.tokens t).map Token.kind) : n.Fits := by
  by_contra hfits
  obtain ⟨x, hx⟩ := n.exact_kind.error hfits
  obtain ⟨_, _, hd, _, _⟩ := (Filter.parse_eq_ok t e).mp h
  exact hd.error_not_mem x (hx ▸ hm)

def comparison (n : Numeral) (field : Text) (op : CompareOp) : Text :=
  field ++ ' ' :: op.keyword.text ++ ' ' :: n.text

theorem parse_comparison_of_fits {field : Text} (hfield : Filter.isFieldName field = true)
    (op : CompareOp) (hfits : n.Fits) : ∃ x : Int64, x.toInt = n.value ∧
      Filter.parse (n.comparison field op) = .ok (.comparison field op (.int x)) := by
  obtain ⟨x, hkind, hx⟩ := n.exact_kind.integer hfits
  have hscans := n.scans Lexer.breaks_nil
  rw [hkind] at hscans
  exact ⟨x, hx, Filter.parse_comparison hfield op hscans (.integer x)⟩

theorem parse_comparison_of_not_fits {field : Text} (hfield : Filter.isFieldName field = true)
    (op : CompareOp) (hfits : ¬n.Fits) :
    ∃ x, Filter.parse (n.comparison field op) = .error x := by
  have hkinds := Filter.kinds_comparison hfield op (n.scans Lexer.breaks_nil)
  rw [List.append_nil] at hkinds
  cases hparse : Filter.parse (n.comparison field op) with
  | error x => exact ⟨x, rfl⟩
  | ok e =>
    refine absurd (fits_of_parse hparse ?_) hfits
    change n.kind ∈ Lexer.kinds (n.comparison field op)
    rw [comparison, hkinds]
    simp

/-- The token that begins where a numeral stands is the one of the numeral. -/
theorem token_at {before after : Text} (hafter : Breaks after) {token : Token}
    (hm : token ∈ Lexer.tokenize (before ++ n.text ++ after))
    (hstart : token.span.start = Text.byteSize before) :
    token ∈ Lexer.tokens (before ++ n.text ++ after) ∧
      token = ⟨n.kind, ⟨Text.byteSize before, Text.byteSize (before ++ n.text)⟩⟩ := by
  have hinside : token ∈ Lexer.tokens (before ++ n.text ++ after) := by
    rcases List.mem_append.mp hm with hm | hm
    · exact hm
    · -- the end of input begins after the numeral
      have hpos := Text.byteSize_pos n.text_ne_nil
      rw [List.mem_singleton.mp hm] at hstart
      simp only [Lexer.endToken, Text.byteSize_append] at hstart
      omega
  have htoken := (Lexer.tiled_tokensFrom 0 (before ++ n.text ++ after)).token_at (n.scans hafter)
    hinside (hstart.trans (Nat.zero_add _).symm)
  rw [Nat.zero_add, Nat.zero_add] at htoken
  exact ⟨hinside, htoken⟩

end Filters

end Numeral

/-- A numeral that a break follows is one token with exactly its value, or an error if 64 bits do not
hold it. A filter that compares with it is accepted or refused accordingly, and wherever it stands in
the filter of a query, its value stands at the same place among the parameters. -/
theorem integers_exact (n : Numeral) :
    (∀ after, Breaks after → ∃ kind ts, kind.Exact n ∧
      Lexer.tokenize (n.text ++ after) = ⟨kind, ⟨0, Text.byteSize n.text⟩⟩ :: ts) ∧
    (∀ field op, Filter.isFieldName field = true →
      (n.Fits → ∃ x : Int64, x.toInt = n.value ∧
        Filter.parse (n.comparison field op) = .ok (.comparison field op (.int x))) ∧
      (¬n.Fits → ∃ e, Filter.parse (n.comparison field op) = .error e)) ∧
    (∀ before after, Breaks after →
      (∃ token ∈ Lexer.tokenize (before ++ n.text ++ after),
        token.span.start = Text.byteSize before) →
      ∀ (o : Options) (p : Params) (q : Query),
        p.directives .filter = some (before ++ n.text ++ after) → compileParams o p = .ok q →
          n.Fits ∧ ∃ (x : Int64) (us vs : List Token), x.toInt = n.value ∧
            Lexer.tokenize (before ++ n.text ++ after) =
              us ++ ⟨.integer x, ⟨Text.byteSize before, Text.byteSize (before ++ n.text)⟩⟩ :: vs ∧
            q.params = us.filterMap (·.kind.literal?) ++
              .int x :: vs.filterMap (·.kind.literal?)) := by
  refine ⟨?_, ?_, ?_⟩
  · intro after hafter
    obtain ⟨ts, hts⟩ := n.tokenize_append hafter
    exact ⟨n.kind, ts, n.exact_kind, hts⟩
  · intro field op hfield
    exact ⟨Numeral.parse_comparison_of_fits hfield op,
      Numeral.parse_comparison_of_not_fits hfield op⟩
  · rintro before after hafter ⟨token, hm, hstart⟩ o p q hgiven h
    obtain ⟨st, hst, rfl⟩ := compileParams_eq_ok h
    obtain ⟨stages, rfl⟩ := Options.statement_eq_ok hst
    obtain ⟨hparams, e, he, _⟩ := stages.params_of_filter hgiven
    obtain ⟨hinside, rfl⟩ := Numeral.token_at hafter hm hstart
    have hfits := Numeral.fits_of_parse he (List.mem_map_of_mem hinside)
    obtain ⟨x, hkind, hx⟩ := n.exact_kind.integer hfits
    obtain ⟨us, vs, hts⟩ := List.append_of_mem hm
    rw [hkind] at hts
    refine ⟨hfits, x, us, vs, hx, hts, ?_⟩
    change stages.statement.params = _
    rw [hparams, hts, List.filterMap_append]
    rfl

def Numeral.least : Numeral where
  negative := true
  digits := "0009223372036854775808".toList
  nonempty := by decide
  decimal := List.all_eq_true.mp (by decide)

theorem integers_exact_least :
    (∃ x : Int64, x.toInt = -2 ^ 63 ∧
      Filter.parse (Numeral.least.comparison "id".toList .ge) =
        .ok (.comparison "id".toList .ge (.int x))) ∧
    ∃ q, compileParams .orders
      ⟨[("$filter".toList, "id gt 7 and (id ge -0009223372036854775808)".toList)]⟩ = .ok q ∧
        ∃ x : Int64, x.toInt = -2 ^ 63 ∧ .int x ∈ q.params := by
  have hvalue : Numeral.least.value = -2 ^ 63 := by
    decide +kernel
  have h : compileParams .orders
      ⟨[("$filter".toList, "id gt 7 and (id ge -0009223372036854775808)".toList)]⟩ = .ok
      { sql := "SELECT * FROM orders o WHERE (o.id > $1 AND o.id >= $2)".toList
        params := [.int 7, .int (-9223372036854775808)] } := by
    decide +kernel
  obtain ⟨_, hcompared, hbound⟩ := integers_exact .least
  obtain ⟨hfits, x, us, vs, hx, _, hparams⟩ := hbound "id gt 7 and (id ge ".toList [')']
    (Lexer.breaks_cons (by decide)) (by decide +kernel) .orders _ _ (by decide +kernel) h
  rw [← hvalue]
  refine ⟨(hcompared _ .ge (by decide)).1 hfits, _, h, x, hx, ?_⟩
  rw [hparams]
  simp

end RequestSql
