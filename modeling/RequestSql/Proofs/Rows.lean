import RequestSql.Proofs.Boundaries
import RequestSql.Proofs.Directives
import RequestSql.Proofs.Integers
import RequestSql.Proofs.Separators

namespace RequestSql

/-- The decimal of a number: no sign, and no zero before another digit. -/
structure Numeral.Canonical (d : Numeral) (n : Nat) : Prop where
  value : d.magnitude = n
  unsigned : d.negative = false
  zeros : d.digits.head? = some '0' → d.digits = ['0']

/-- A text that gives a number of rows: a numeral without a minus sign, after a plus sign or none, with
white space around it or none. Its value is one that 64 bits hold. -/
def Paging.Gives (t : Text) (n : Nat) : Prop :=
  ∃ (d : Numeral) (sign : Text), d.negative = false ∧ (sign = [] ∨ sign = ['+']) ∧
    Text.Padded (sign ++ d.text) t ∧ d.magnitude = n ∧ n ≤ 2 ^ 64 - 1

def Params.paged (top skip : Text) : Params :=
  ⟨[("$top".toList, top), ("$skip".toList, skip)]⟩

section Numbers

variable {t : Text} {n : Nat} {d : Numeral}

theorem Numeral.text_eq_digits (h : d.negative = false) : d.text = d.digits := by
  rw [text, h]
  rfl

/-- A decimal begins with a zero only if it is one. -/
theorem Text.head_ofNat (h : (ofNat n).head? = some '0') : ofNat n = ['0'] := by
  induction n using Nat.strongRecOn with
  | ind n ih =>
    rw [ofNat, Nat.toDigits_eq_if (by decide)] at h ⊢
    split at h
    · rename_i hn
      rw [if_pos hn]
      rw [List.head?_singleton, Option.some.injEq] at h
      rw [h]
    · rename_i hn
      -- the digits in front are those of a smaller number, which is not zero
      rw [List.head?_append_of_ne_nil _ Nat.toDigits_ne_nil] at h
      have hzero : ofNat (n / 10) = ofNat 0 := ih (n / 10) (by omega) h
      have := ofNat_inj hzero
      omega

/-- The digits that are written for a number are its decimal. -/
theorem Numeral.exists_canonical (n : Nat) :
    ∃ d : Numeral, d.Canonical n ∧ d.text = Text.ofNat n := by
  let d : Numeral := ⟨false, Text.ofNat n, Nat.toDigits_ne_nil, fun c => Text.isDigit_of_mem_ofNat⟩
  refine ⟨d, ⟨?_, rfl, Text.head_ofNat⟩, rfl⟩
  rw [← d.digitsValue_eq_magnitude]
  exact Text.digitsValue_ofNat n

def Paging.digitsValue? (t : Text) : Option Nat :=
  if !t.isEmpty && t.all Char.isDigit && Text.digitsValue t ≤ maxNumber then
    some (Text.digitsValue t)
  else none

theorem Paging.digitsValue?_eq_some_iff : digitsValue? t = some n ↔
    ∃ d : Numeral, d.negative = false ∧ t = d.digits ∧ d.magnitude = n ∧ n ≤ 2 ^ 64 - 1 := by
  rw [digitsValue?, Option.ite_none_right_eq_some]
  simp only [Bool.and_eq_true, Bool.not_eq_true', List.isEmpty_eq_false_iff, List.all_eq_true,
    decide_eq_true_eq, Option.some.injEq]
  constructor
  · rintro ⟨⟨⟨hne, hdigits⟩, hfits⟩, rfl⟩
    let d : Numeral := ⟨false, t, hne, hdigits⟩
    exact ⟨d, rfl, rfl, d.digitsValue_eq_magnitude.symm, hfits⟩
  · rintro ⟨d, _, rfl, rfl, hfits⟩
    rw [d.digitsValue_eq_magnitude]
    exact ⟨⟨⟨d.nonempty, d.decimal⟩, hfits⟩, rfl⟩

theorem Paging.number?_unsigned (h : t.head? ≠ some '+') : number? t = digitsValue? t := by
  unfold number?
  dsimp only
  split
  · exact absurd rfl h
  · rfl

theorem Numeral.head_ne_plus (d : Numeral) : d.digits.head? ≠ some '+' := by
  intro h
  exact absurd (d.decimal '+' (List.mem_of_mem_head? h)) (by decide)

theorem Paging.number?_eq_some_iff : number? t = some n ↔
    ∃ (d : Numeral) (sign : Text), d.negative = false ∧ (sign = [] ∨ sign = ['+']) ∧
      t = sign ++ d.digits ∧ d.magnitude = n ∧ n ≤ 2 ^ 64 - 1 := by
  constructor
  · intro h
    by_cases hplus : t.head? = some '+'
    · obtain ⟨rest, rfl⟩ := List.head?_eq_some_iff.mp hplus
      obtain ⟨d, hd, rfl, hvalue⟩ := digitsValue?_eq_some_iff.mp h
      exact ⟨d, ['+'], hd, .inr rfl, rfl, hvalue⟩
    · rw [number?_unsigned hplus] at h
      obtain ⟨d, hd, rfl, hvalue⟩ := digitsValue?_eq_some_iff.mp h
      exact ⟨d, [], hd, .inl rfl, rfl, hvalue⟩
  · rintro ⟨d, sign, hd, rfl | rfl, rfl, hvalue⟩
    · rw [List.nil_append, number?_unsigned d.head_ne_plus]
      exact digitsValue?_eq_some_iff.mpr ⟨d, hd, rfl, hvalue⟩
    · exact digitsValue?_eq_some_iff.mpr ⟨d, hd, rfl, hvalue⟩

theorem Paging.trimmed_numeral (d : Numeral) {sign : Text} (hsign : sign = [] ∨ sign = ['+']) :
    Text.Trimmed (sign ++ d.digits) := by
  refine .of_word (List.forall_mem_append.mpr ⟨?_, fun c hc => ?_⟩)
  · rcases hsign with rfl | rfl
    · simp
    · exact fun c hc => by rw [List.mem_singleton.mp hc]; decide
  · by_contra hblank
    have hdigit := Text.isDigit_of_isBlank (Bool.not_eq_false _ ▸ hblank)
    rw [d.decimal c hc] at hdigit
    cases hdigit

/-- A number of rows is read exactly as the text gives it. -/
theorem Paging.parse_eq_ok_iff {directive : Directive} : parse directive t = .ok n ↔ Gives t n := by
  have hparse : parse directive t = .ok n ↔ number? (Text.trim t) = some n := by
    unfold parse
    cases number? (Text.trim t) <;> simp
  rw [hparse, number?_eq_some_iff]
  constructor
  · rintro ⟨d, sign, hd, hsign, ht, hvalue⟩
    refine ⟨d, sign, hd, hsign, ?_, hvalue⟩
    rw [Numeral.text_eq_digits hd, ← ht]
    exact Text.padded_trim t
  · rintro ⟨d, sign, hd, hsign, hpadded, hvalue⟩
    rw [Numeral.text_eq_digits hd] at hpadded
    exact ⟨d, sign, hd, hsign, hpadded.trim_eq (trimmed_numeral d hsign), hvalue⟩

theorem Paging.parse_eq_error {directive : Directive} (h : ¬∃ n, Gives t n) :
    parse directive t = .error (.invalidPaging directive t) := by
  cases hparse : number? (Text.trim t) with
  | none => simp only [parse, hparse]
  | some n =>
    have hok : parse directive t = .ok n := by simp only [parse, hparse]
    exact absurd ⟨n, parse_eq_ok_iff.mp hok⟩ h

end Numbers

section Clauses

variable {t u v : Text}

theorem Text.words_append_space (u v : Text) : words (u ++ ' ' :: v) = words u ++ words v := by
  rw [words, splitBy_eq_splitOnP, List.splitOnP_append_cons u v (by decide), List.filter_append,
    ← splitBy_eq_splitOnP, ← splitBy_eq_splitOnP, words, words]

theorem Text.intercalate_append (sep : Text) {us vs : List Text} (hu : us ≠ []) (hv : vs ≠ []) :
    sep.intercalate (us ++ vs) = sep.intercalate us ++ sep ++ sep.intercalate vs := by
  induction us with
  | nil => exact absurd rfl hu
  | cons u us ih =>
    cases us with
    | nil => simp [List.intercalate_cons_of_ne_nil hv]
    | cons u' us => simpa using ih (List.cons_ne_nil _ _)

theorem Text.Tidy.words_ne_nil (h : Tidy t) : words t ≠ [] := by
  intro hwords
  have hcollapse := h.collapse_eq
  rw [collapse, hwords] at hcollapse
  exact h.ne_nil hcollapse.symm

/-- What is tidy already stays at the end of a text that is collapsed. -/
theorem Text.collapse_append_tidy (hu : words u ≠ []) (hv : Tidy v) :
    collapse (u ++ ' ' :: v) = collapse u ++ ' ' :: v := by
  have hjoin := intercalate_append [' '] hu hv.words_ne_nil
  rw [collapse, words_append_space, hjoin, ← collapse, ← collapse, hv.collapse_eq,
    List.append_assoc, List.singleton_append]

def Statement.rows (n m : Nat) : Text :=
  "LIMIT".toList ++ ' ' :: (Text.ofNat n ++ ' ' :: ("OFFSET".toList ++ ' ' :: Text.ofNat m))

theorem Statement.tidy_rows (n m : Nat) : Text.Tidy (rows n m) :=
  (Text.Tidy.fixed _ (by decide)).space ((Text.ofNat_isTerm n).tidy.space
    ((Text.Tidy.fixed _ (by decide)).space (Text.ofNat_isTerm m).tidy))

theorem Statement.tail_paged (s : Statement) (hlimit : s.limit = none) (hoffset : s.offset = none)
    (n m : Nat) : Statement.tail { s with limit := some n, offset := some m } =
      s.tail ++ ' ' :: rows n m := by
  simp only [tail, hlimit, hoffset, numberClause, List.append_assoc, List.append_nil]
  rfl

theorem Statement.words_render_ne_nil (s : Statement) (style : PlaceholderStyle) :
    Text.words (s.fragment.render style) ≠ [] := by
  rw [ne_eq, Text.words_eq_nil_iff, render_fragment]
  unfold head
  intro h
  have hfirst := Text.isAllBlank_iff.mp h 'S' (by simp)
  exact absurd hfirst (by decide)

/-- A statement with its numbers of rows is the statement without them and then the numbers. -/
theorem Statement.sql_paged (s : Statement) (style : PlaceholderStyle) (hlimit : s.limit = none)
    (hoffset : s.offset = none) (n m : Nat) :
    Statement.sql style { s with limit := some n, offset := some m } =
      s.sql style ++ " LIMIT ".toList ++ Text.ofNat n ++ " OFFSET ".toList ++ Text.ofNat m := by
  have hrender : Fragment.render style
      (Statement.fragment { s with limit := some n, offset := some m }) =
        s.fragment.render style ++ ' ' :: rows n m := by
    rw [render_fragment, tail_paged s hlimit hoffset, ← List.append_assoc, render_fragment]
    rfl
  rw [sql, hrender, Text.collapse_append_tidy (s.words_render_ne_nil style) (tidy_rows n m), ← sql]
  simp only [List.append_assoc]
  rfl

end Clauses

def Directives.paged (top skip : Text) : Directives
  | .top => some top
  | .skip => some skip
  | _ => none

section Requests

variable {o : Options} {top skip : Text} {n m : Nat}

theorem Params.directives_paged (htop : top.isAllBlank = false) (hskip : skip.isAllBlank = false) :
    (Params.paged top skip).directives = Directives.paged top skip := by
  funext d
  have hkey (k : Directive) : k.key = d.key ↔ k = d := Directive.key_injective.eq_iff
  have hget : (Params.paged top skip).get? d.key = Directives.paged top skip d := by
    change (⟨[(Directive.top.key, top), (Directive.skip.key, skip)]⟩ : Params).get? d.key = _
    rw [get?_cons, get?_cons]
    simp only [hkey]
    cases d <;> rfl
  rw [directives, hget]
  cases d <;> simp [Directives.paged, htop, hskip]

theorem Options.check_of_names (htable : Name.isIdentifier o.table = true)
    (halias : ∀ a ∈ o.effectiveAlias, Name.isIdentifier a = true) : o.check = .ok () := by
  refine bind_eq_ok.mpr ⟨(), if_pos htable, ?_⟩
  cases ha : o.effectiveAlias with
  | none => rfl
  | some a => exact if_pos (halias a ha)

def Options.bare (o : Options) : Statement :=
  o.assemble [] (o.scope.plainProjection none []) none { orderBy := [], limit := none, offset := none }

theorem Options.statement_bare (h : o.check = .ok ()) :
    o.statement (fun _ => none) = .ok o.bare :=
  Stages.statement_ok
    ⟨[], o.scope.plainProjection none [], none, ⟨[], none, none⟩, h, rfl, rfl, rfl, rfl⟩

theorem Options.statement_paged (h : o.check = .ok ()) (hn : Paging.parse .top top = .ok n)
    (hm : Paging.parse .skip skip = .ok m) : o.statement (.paged top skip) =
      .ok { o.bare with limit := some n, offset := some m } := by
  have hclauses : o.clauses (.paged top skip) = .ok ⟨[], some n, some m⟩ := by
    simp only [clauses, Directives.read, Directives.paged, hn, hm]
    rfl
  exact Stages.statement_ok
    ⟨[], o.scope.plainProjection none [], none, ⟨[], some n, some m⟩, h, rfl, rfl, rfl, hclauses⟩

theorem verdict_paged (h : o.check = .ok ()) (htop : top.isAllBlank = false)
    (hskip : skip.isAllBlank = false) : verdict (compileParams o (.paged top skip)) =
      verdict (Paging.parse .top top) >>= fun _ => verdict (Paging.parse .skip skip) := by
  have hheeded : (Directives.paged top skip).heeded = [(.top, top), (.skip, skip)] := rfl
  rw [verdict_compileParams, h, Params.directives_paged htop hskip, hheeded]
  change (do verdict (Paging.parse .top top); verdict (Paging.parse .skip skip); pure PUnit.unit) = _
  congr 1
  funext _
  cases verdict (Paging.parse .skip skip) <;> rfl

theorem compileParams_paged (h : o.check = .ok ()) (htop : top.isAllBlank = false)
    (hskip : skip.isAllBlank = false) (hn : Paging.Gives top n) (hm : Paging.Gives skip m) :
    ∃ (q : Query) (limit offset : Numeral), compileParams o {} = .ok q ∧
      limit.Canonical n ∧ offset.Canonical m ∧
      compileParams o (.paged top skip) = .ok { q with
        sql := q.sql ++ " LIMIT ".toList ++ limit.text ++ " OFFSET ".toList ++ offset.text } := by
  obtain ⟨limit, hlimit, hltext⟩ := Numeral.exists_canonical n
  obtain ⟨offset, hoffset, hotext⟩ := Numeral.exists_canonical m
  have hbare : compileParams o {} = .ok (.ofStatement o.style o.bare) :=
    compileParams_of_statement (Options.statement_bare h)
  have hpaged := Options.statement_paged h (Paging.parse_eq_ok_iff.mpr hn)
    (Paging.parse_eq_ok_iff.mpr hm)
  rw [← Params.directives_paged htop hskip] at hpaged
  refine ⟨_, limit, offset, hbare, hlimit, hoffset, ?_⟩
  rw [compileParams_of_statement hpaged, hltext, hotext]
  simp only [Query.ofStatement, Statement.sql_paged o.bare o.style rfl rfl]
  rfl

end Requests

/-- A request for rows is answered exactly or refused. It is accepted if and only if both of its texts
give a number; then the statement is that of the empty request followed by the decimals of these numbers.
Otherwise the first text that gives no number is named in the error, as it stands in the request. -/
theorem paging_exact (o : Options) (htable : Name.isIdentifier o.table = true)
    (halias : ∀ a ∈ o.effectiveAlias, Name.isIdentifier a = true) (top skip : Text)
    (htop : top.isAllBlank = false) (hskip : skip.isAllBlank = false) :
    ((∃ q, compileParams o (.paged top skip) = .ok q) ↔
      (∃ n, Paging.Gives top n) ∧ ∃ m, Paging.Gives skip m) ∧
    (∀ n m, Paging.Gives top n → Paging.Gives skip m →
      ∃ (q : Query) (limit offset : Numeral), compileParams o {} = .ok q ∧
        limit.Canonical n ∧ offset.Canonical m ∧
        compileParams o (.paged top skip) = .ok { q with
          sql := q.sql ++ " LIMIT ".toList ++ limit.text ++ " OFFSET ".toList ++ offset.text }) ∧
    ((¬∃ n, Paging.Gives top n) →
      compileParams o (.paged top skip) = .error (.invalidPaging .top top)) ∧
    ((∃ n, Paging.Gives top n) → (¬∃ m, Paging.Gives skip m) →
      compileParams o (.paged top skip) = .error (.invalidPaging .skip skip)) := by
  have hcheck := Options.check_of_names htable halias
  have hverdict := verdict_paged hcheck htop hskip
  have haccepted {t : Text} (d : Directive) :
      verdict (Paging.parse d t) = .ok () ↔ ∃ n, Paging.Gives t n := by
    simp only [verdict_eq_ok, Paging.parse_eq_ok_iff]
  refine ⟨?_, fun n m => compileParams_paged hcheck htop hskip, fun h => ?_, fun h h' => ?_⟩
  · rw [← verdict_eq_ok, hverdict, bind_eq_ok, haccepted]
    constructor
    · rintro ⟨u, hu, hm⟩
      exact ⟨(haccepted .top).mp hu, hm⟩
    · rintro ⟨hn, hm⟩
      exact ⟨(), (haccepted .top).mpr hn, hm⟩
  · rw [← verdict_eq_error, hverdict, Paging.parse_eq_error h]
    rfl
  · rw [← verdict_eq_error, hverdict, (haccepted .top).mpr h, Paging.parse_eq_error h']
    rfl

/-- A sign, zeros in front and white space around a number, and the greatest number that fits; one more
does not. -/
theorem paging_exact_greatest :
    (∃ (q : Query) (limit offset : Numeral), compileParams .orders {} = .ok q ∧
      limit.Canonical 7 ∧ offset.Canonical (2 ^ 64 - 1) ∧
      compileParams .orders (.paged " +007\t".toList "18446744073709551615".toList) = .ok { q with
        sql := q.sql ++ " LIMIT ".toList ++ limit.text ++ " OFFSET ".toList ++ offset.text }) ∧
    compileParams .orders (.paged "7".toList " 18446744073709551616".toList) =
      .error (.invalidPaging .skip " 18446744073709551616".toList) := by
  have htable : Name.isIdentifier Options.orders.table = true := by decide
  have halias : ∀ a ∈ Options.orders.effectiveAlias, Name.isIdentifier a = true := by decide
  have hgives {t : Text} {n : Nat} (h : Paging.parse .top t = .ok n) : Paging.Gives t n :=
    Paging.parse_eq_ok_iff.mp h
  constructor
  · obtain ⟨_, hgiven, _⟩ := paging_exact .orders htable halias " +007\t".toList
      "18446744073709551615".toList (by decide) (by decide)
    exact hgiven 7 (2 ^ 64 - 1) (hgives (by decide)) (hgives (by decide))
  · obtain ⟨_, _, _, hrefused⟩ := paging_exact .orders htable halias "7".toList
      " 18446744073709551616".toList (by decide) (by decide)
    refine hrefused ⟨7, hgives (by decide)⟩ fun ⟨m, hm⟩ => ?_
    have hparse : Paging.parse .top " 18446744073709551616".toList = .ok m :=
      Paging.parse_eq_ok_iff.mpr hm
    have herror : Paging.parse .top " 18446744073709551616".toList =
        .error (.invalidPaging .top " 18446744073709551616".toList) := by decide
    rw [herror] at hparse
    cases hparse

end RequestSql
