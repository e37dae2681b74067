import RequestSql.CommandLine.Run
import RequestSql.Proofs.Configuration
import RequestSql.Proofs.Numerals
import RequestSql.Proofs.Placeholders

namespace RequestSql

namespace Text

def toInt : Text → Int
  | '-' :: t => -(digitsValue t : Int)
  | t => digitsValue t

theorem toInt_ofInt (n : Int) : toInt (ofInt n) = n := by
  unfold ofInt
  split
  · rw [toInt, digitsValue_ofNat]
    omega
  · have hdigits : ∀ c ∈ ofNat n.natAbs, c.isDigit = true := fun c hc => isDigit_of_mem_ofNat hc
    rw [toInt, digitsValue_ofNat]
    · omega
    · intro t ht
      rw [ht] at hdigits
      exact absurd (hdigits '-' List.mem_cons_self) (by decide)

theorem mem_ofInt {n : Int} {c : Char} (h : c ∈ ofInt n) : c.isDigit = true ∨ c = '-' := by
  unfold ofInt at h
  split at h
  · rcases List.mem_cons.mp h with h | h
    · exact .inr h
    · exact .inl (isDigit_of_mem_ofNat h)
  · exact .inl (isDigit_of_mem_ofNat h)

def isScalarChar (c : Char) : Bool :=
  isNumeralChar c || c.isAlpha

end Text

namespace Value

open Text

/-- What the text of a value tells: a number that is not finite has no text of its own. -/
def told : Value → Value
  | .float x => if x.isFinite then .float x else .null
  | v => v

def isFinite : Value → Bool
  | .float x => x.isFinite
  | _ => true

def json (v : Value) : Text :=
  v.toJson.compact

def readScalar? (t : Text) : Option Value :=
  if t = "null".toList then some .null
  else if t = "true".toList then some (.bool true)
  else if t = "false".toList then some (.bool false)
  else if '.' ∈ t ∨ 'e' ∈ t then (Binary64.read? t).map .float
  else some (.int (Int64.ofInt (toInt t)))

def scan? : Text → Option (Value × Text)
  | '"' :: t =>
    let (body, rest) := Json.scanString t
    body.text.toOption.map fun s => (.text s, rest)
  | t => (readScalar? (t.takeWhile isScalarChar)).map fun v => (v, t.dropWhile isScalarChar)

theorem told_eq_self_iff {v : Value} : v.told = v ↔ v.isFinite = true := by
  cases v with
  | float x => cases h : x.isFinite <;> simp [told, isFinite, h]
  | _ => simp [told, isFinite]

/-- A text of numerals is none of the words. -/
theorem readScalar_numerals {t : Text} (h : ∀ c ∈ t, isNumeralChar c = true) :
    readScalar? t = if '.' ∈ t ∨ 'e' ∈ t then (Binary64.read? t).map .float
      else some (.int (Int64.ofInt (toInt t))) := by
  have hword : ∀ word : Text, word.head?.any isNumeralChar = false → word ≠ [] → t ≠ word := by
    rintro (_ | ⟨c, word⟩) hw hne rfl
    · exact hne rfl
    · have hc : isNumeralChar c = false := hw
      rw [h c List.mem_cons_self] at hc
      cases hc
  rw [readScalar?, if_neg (hword _ (by decide) (by decide)),
    if_neg (hword _ (by decide) (by decide)), if_neg (hword _ (by decide) (by decide))]

theorem mem_json_int {n : Int64} {c : Char} (h : c ∈ json (.int n)) : isNumeralChar c = true := by
  rcases mem_ofInt h with h | rfl
  · exact isNumeralChar_of_isDigit h
  · decide

theorem readScalar_int (n : Int64) : readScalar? (json (.int n)) = some (.int n) := by
  have hplain : ∀ c ∈ json (.int n), c ≠ '.' ∧ c ≠ 'e' := by
    intro c hc
    rcases mem_ofInt hc with hc | rfl
    · constructor
      all_goals
        rintro rfl
        exact absurd hc (by decide)
    · decide
  rw [readScalar_numerals fun c hc => mem_json_int hc, if_neg]
  · change some (Value.int (Int64.ofInt (toInt (ofInt n.toInt)))) = _
    rw [toInt_ofInt, Int64.ofInt_toInt]
  · rintro (h | h)
    · exact (hplain _ h).1 rfl
    · exact (hplain _ h).2 rfl

theorem json_float {x : Binary64} (h : x.isFinite = true) :
    json (.float x) = Json.Number.floatText x := by
  simp [json, toJson, Json.compact, Json.Number.text, h]

theorem json_not_finite {x : Binary64} (h : x.isFinite = false) :
    json (.float x) = json .null := by
  simp [json, toJson, h]

theorem mem_floatText {x : Binary64} {c : Char} (h : c ∈ Json.Number.floatText x) :
    isNumeralChar c = true := by
  rw [Binary64.floatText_eq] at h
  rcases List.mem_append.mp h with h | h
  · split at h
    · cases List.mem_singleton.mp h
      decide
    · cases h
  · exact Decimal.mem_numeral h

theorem floatText_marked (x : Binary64) :
    '.' ∈ Json.Number.floatText x ∨ 'e' ∈ Json.Number.floatText x := by
  rw [Binary64.floatText_eq]
  exact (Decimal.numeral_marked _).imp (List.mem_append_right _) (List.mem_append_right _)

theorem readScalar_float {x : Binary64} (h : x.isFinite = true) :
    readScalar? (json (.float x)) = some (.float x) := by
  rw [json_float h, readScalar_numerals fun c hc => mem_floatText hc, if_pos (floatText_marked x),
    Binary64.read_floatText h]
  rfl

theorem json_ne_nil (v : Value) : v.json ≠ [] := by
  cases v with
  | null => decide
  | bool b => cases b <;> decide
  | int n =>
    change ofInt n.toInt ≠ []
    unfold ofInt
    split
    · simp
    · exact Nat.toDigits_ne_nil
  | float x =>
    cases hx : x.isFinite with
    | true =>
      rw [json_float hx]
      intro h
      have hmarked := floatText_marked x
      simp [h] at hmarked
    | false =>
      rw [json_not_finite hx]
      decide
  | text t => simp [json, toJson, Json.compact, Json.quote]

/-- The text of a value that is no string is a word or a number, and reads back. -/
theorem scalar_json {v : Value} (h : ∀ t, v ≠ .text t) :
    (∀ c ∈ v.json, isScalarChar c = true) ∧ readScalar? v.json = some v.told := by
  have hnumeral : ∀ {c}, isNumeralChar c = true → isScalarChar c = true := by
    intro c hc
    simp [isScalarChar, hc]
  cases v with
  | null => exact ⟨List.all_eq_true.mp (by decide), by decide⟩
  | bool b =>
    cases b with
    | true => exact ⟨List.all_eq_true.mp (by decide), by decide⟩
    | false => exact ⟨List.all_eq_true.mp (by decide), by decide⟩
  | int n => exact ⟨fun c hc => hnumeral (mem_json_int hc), readScalar_int n⟩
  | float x =>
    cases hx : x.isFinite with
    | true =>
      have htold : told (.float x) = .float x := told_eq_self_iff.mpr hx
      refine ⟨fun c hc => hnumeral ?_, by rw [readScalar_float hx, htold]⟩
      rw [json_float hx] at hc
      exact mem_floatText hc
    | false =>
      have htold : told (.float x) = .null := by simp [told, hx]
      rw [json_not_finite hx, htold]
      exact ⟨List.all_eq_true.mp (by decide), by decide⟩
  | text t => exact absurd rfl (h t)

/-- The first character of a value: the quote of a string, or one of a word or a number. -/
theorem json_eq_cons (v : Value) :
    ∃ c t, v.json = c :: t ∧ ((∃ s, v = .text s) ∧ c = '"' ∨ isScalarChar c = true) := by
  obtain ⟨c, t, ht⟩ := List.exists_cons_of_ne_nil v.json_ne_nil
  refine ⟨c, t, ht, ?_⟩
  by_cases hv : ∃ s, v = .text s
  · obtain ⟨s, rfl⟩ := hv
    exact .inl ⟨⟨s, rfl⟩, (List.cons.inj ht).1.symm⟩
  · refine .inr ((scalar_json (not_exists.mp hv)).1 c ?_)
    rw [ht]
    exact List.mem_cons_self

/-- The text of a value is scanned up to what follows it. -/
theorem scan_json (v : Value) {u : Text} (hu : u.head?.any isScalarChar = false) :
    scan? (v.json ++ u) = some (v.told, u) := by
  by_cases hv : ∃ t, v = .text t
  · obtain ⟨t, rfl⟩ := hv
    change scan? (Json.quote t ++ u) = _
    rw [Json.quote_append, scan?, Json.scanString_quote]
    simp only [Json.StringBody.text_ofText]
    rfl
  · obtain ⟨hchars, hread⟩ := scalar_json (not_exists.mp hv)
    obtain ⟨c, t, ht, hc⟩ := v.json_eq_cons
    have hstop : u.takeWhile isScalarChar = [] ∧ u.dropWhile isScalarChar = u := by
      cases u with
      | nil => exact ⟨rfl, rfl⟩
      | cons c u =>
        have hc : isScalarChar c = false := hu
        simp [hc]
    rw [scan?, List.takeWhile_append_of_pos hchars, List.dropWhile_append_of_pos hchars, hstop.1,
      hstop.2, List.append_nil, hread]
    · rfl
    · intro r hr
      rw [ht] at hr
      cases (List.cons.inj hr).1
      exact absurd (hc.resolve_left fun h => hv h.1) (by decide)

theorem json_append_inj {v w : Value} {t u : Text} (ht : t.head?.any isScalarChar = false)
    (hu : u.head?.any isScalarChar = false) (h : v.json ++ t = w.json ++ u) :
    v.told = w.told ∧ t = u := by
  have hscan := congrArg scan? h
  rw [scan_json v ht, scan_json w hu] at hscan
  exact Prod.mk.inj (Option.some.inj hscan)

theorem toJson_told (v : Value) : v.told.toJson = v.toJson := by
  cases v with
  | float x => cases hx : x.isFinite <;> simp [told, toJson, hx]
  | _ => rfl

/-- Values have the same text where it tells the same. -/
theorem json_inj {v w : Value} : v.json = w.json ↔ v.told = w.told := by
  constructor
  · intro h
    exact (json_append_inj (t := []) (u := []) rfl rfl (by rw [h])).1
  · intro h
    rw [json, json, ← toJson_told v, h, toJson_told]

section Lists

variable {sep close : Text}

/-- What follows an item ends it. -/
theorem items_head (hsep : sep.head? = some ',') (hclose : close.head?.any isScalarChar = false)
    (vs : List Value) :
    (vs.flatMap (fun v => sep ++ v.json) ++ close).head?.any isScalarChar = false := by
  cases vs with
  | nil => exact hclose
  | cons v vs =>
    obtain ⟨r, rfl⟩ := List.head?_eq_some_iff.mp hsep
    rfl

/-- The items of a list after its first one, each after a separator, are told from the text. -/
theorem items_inj (hsep : sep.head? = some ',') (hclose : close.head?.any isScalarChar = false)
    (hcomma : close.head? ≠ some ',') {vs ws : List Value}
    (h : vs.flatMap (fun v => sep ++ v.json) ++ close =
      ws.flatMap (fun v => sep ++ v.json) ++ close) : vs.map told = ws.map told := by
  have hne : ∀ v (vs : List Value),
      close ≠ (v :: vs).flatMap (fun v => sep ++ v.json) ++ close := by
    intro v vs he
    obtain ⟨r, rfl⟩ := List.head?_eq_some_iff.mp hsep
    rw [he] at hcomma
    exact hcomma rfl
  induction vs generalizing ws with
  | nil =>
    cases ws with
    | nil => rfl
    | cons w ws => exact absurd h (hne w ws)
  | cons v vs ih =>
    cases ws with
    | nil => exact absurd h.symm (hne v vs)
    | cons w ws =>
      simp only [List.flatMap_cons, List.append_assoc, List.append_cancel_left_eq] at h
      obtain ⟨hv, hrest⟩ :=
        json_append_inj (items_head hsep hclose vs) (items_head hsep hclose ws) h
      rw [List.map_cons, List.map_cons, hv, ih hrest]

end Lists

theorem compactItems_toJson (vs : List Value) :
    Json.compactItems (vs.map toJson) = vs.flatMap fun v => [','] ++ v.json := by
  induction vs with
  | nil => rfl
  | cons v vs ih =>
    rw [List.map_cons, Json.compactItems, ih]
    rfl

theorem prettyAt_toJson (depth : Nat) (v : Value) : Json.prettyAt depth v.toJson = v.json := by
  cases v with
  | float x => cases hx : x.isFinite <;> simp [toJson, hx, Json.prettyAt, json]
  | _ => rfl

theorem prettyItems_toJson (depth : Nat) (vs : List Value) :
    Json.prettyItems depth (vs.map toJson) =
      vs.flatMap fun v => (',' :: Json.newLine depth) ++ v.json := by
  induction vs with
  | nil => rfl
  | cons v vs ih =>
    rw [List.map_cons, Json.prettyItems, ih, prettyAt_toJson]
    simp

end Value

namespace Query

open Text

def itemLead (pretty : Bool) : Text :=
  if pretty then Json.newLine 2 else []

def arrayEnd (pretty : Bool) : Text :=
  (if pretty then Json.newLine 1 else []) ++ [']']

def paramsText (pretty : Bool) (q : Query) : Text :=
  if pretty then Json.prettyAt 1 (.array (q.params.map Value.toJson))
  else (Json.array (q.params.map Value.toJson)).compact

variable {q q' : Query} {pretty pretty' : Bool}

theorem paramsText_nil (h : q.params = []) : q.paramsText pretty = "[]".toList := by
  cases pretty <;> simp [paramsText, h, Json.prettyAt, Json.compact]

theorem paramsText_cons {v : Value} {vs : List Value} (h : q.params = v :: vs) :
    q.paramsText pretty = '[' :: (itemLead pretty ++ (v.json ++
      (vs.flatMap (fun w => (',' :: itemLead pretty) ++ w.json) ++ arrayEnd pretty))) := by
  cases pretty with
  | true =>
    simp [paramsText, h, Json.prettyAt, Value.prettyAt_toJson, Value.prettyItems_toJson, itemLead,
      arrayEnd]
  | false =>
    simp [paramsText, h, Json.compact, Value.compactItems_toJson, itemLead, arrayEnd, Value.json]

theorem paramsText_congr (h : q.params.map Value.told = q'.params.map Value.told) :
    q.paramsText pretty = q'.paramsText pretty := by
  have hjson : q.params.map Value.toJson = q'.params.map Value.toJson := by
    have hmap := congrArg (List.map Value.toJson) h
    simpa [Function.comp_def, Value.toJson_told] using hmap
  rw [paramsText, paramsText, hjson]

theorem arrayEnd_head (pretty : Bool) :
    (arrayEnd pretty).head?.any isScalarChar = false ∧ (arrayEnd pretty).head? ≠ some ',' := by
  cases pretty <;> decide

/-- An array that is not empty shows its layout after the bracket. -/
theorem paramsText_layout (pretty : Bool) {v : Value} {vs : List Value}
    (h : q.params = v :: vs) :
    ∃ c t, q.paramsText pretty = '[' :: c :: t ∧ c ≠ ']' ∧ (c = '\n' ↔ pretty = true) := by
  obtain ⟨c, t, ht, hc⟩ := v.json_eq_cons
  rw [paramsText_cons h, ht]
  cases pretty with
  | true => exact ⟨_, _, rfl, by decide, by decide⟩
  | false =>
    refine ⟨_, _, rfl, ?_, ?_⟩
    · rintro rfl
      exact absurd hc (by rintro (⟨_, h⟩ | h) <;> exact absurd h (by decide))
    · refine iff_of_false ?_ (by decide)
      rintro rfl
      exact absurd hc (by rintro (⟨_, h⟩ | h) <;> exact absurd h (by decide))

/-- The text of the array, in whatever layout, tells the parameters. -/
theorem paramsText_inj (h : q.paramsText pretty = q'.paramsText pretty') :
    q.params.map Value.told = q'.params.map Value.told := by
  cases hq : q.params with
  | nil =>
    cases hq' : q'.params with
    | nil => rfl
    | cons w ws =>
      obtain ⟨c, t, ht, hc, _⟩ := paramsText_layout pretty' hq'
      rw [paramsText_nil hq, ht] at h
      cases h
      exact absurd rfl hc
  | cons v vs =>
    obtain ⟨c, t, ht, hc, hlayout⟩ := paramsText_layout pretty hq
    cases hq' : q'.params with
    | nil =>
      rw [paramsText_nil hq', ht] at h
      cases h
      exact absurd rfl hc
    | cons w ws =>
      obtain ⟨c', t', ht', _, hlayout'⟩ := paramsText_layout pretty' hq'
      have hsame : pretty = pretty' := by
        rw [ht, ht'] at h
        cases h
        exact Bool.eq_iff_iff.mpr (hlayout.symm.trans hlayout')
      subst hsame
      obtain ⟨hend, hcomma⟩ := arrayEnd_head pretty
      rw [paramsText_cons hq, paramsText_cons hq', List.cons.injEq, List.append_cancel_left_eq] at h
      obtain ⟨hv, hrest⟩ := Value.json_append_inj (Value.items_head rfl hend vs)
        (Value.items_head rfl hend ws) h.2
      rw [List.map_cons, List.map_cons, hv, Value.items_inj rfl hend hcomma hrest]

def opening (pretty : Bool) (sql : Text) : Text :=
  let lead := if pretty then Json.newLine 1 else []
  let space := if pretty then [' '] else []
  '\x7b' :: lead ++ Json.quote "sql".toList ++ ':' :: space ++ Json.quote sql ++
    ',' :: lead ++ Json.quote "params".toList ++ ':' :: space

def closing (pretty : Bool) : Text :=
  (if pretty then Json.newLine 0 else []) ++ ['\x7d']

theorem text_eq (q : Query) (pretty : Bool) :
    (if pretty then q.toJson.pretty else q.toJson.compact) =
      opening pretty q.sql ++ q.paramsText pretty ++ closing pretty := by
  cases pretty with
  | true =>
    simp [toJson, Json.pretty, Json.prettyAt, Json.prettyMembers, opening, closing, paramsText,
      Json.compact]
  | false => simp [toJson, Json.compact, Json.compactMembers, opening, closing, paramsText]

end Query

/-- The literals that are printed as `null`: the word, and the numbers out of range. -/
theorem TokenKind.json_eq_null {k : TokenKind} {v : Value} (h : k.literal? = some v) :
    v.json = "null".toList ↔ k = .keyword .null ∨ ∃ x, k = .float x ∧ x.isFinite = false := by
  have hnull : v.json = "null".toList ↔ v.told = .null := Value.json_inj (w := .null)
  rw [hnull]
  cases k with
  | float x =>
    cases h
    cases hx : x.isFinite <;> simp [Value.told, hx]
  | keyword w => cases w <;> cases h <;> simp [Value.told]
  | _ => cases h <;> simp [Value.told]

namespace CommandLine

variable {read read' : Text → Option Text} {i i' : Invocation} {t t' out out' : Text}
  {log log' : List Text}

def Compiles (read : Text → Option Text) (i : Invocation) (t : Text) (p : Params) (q : Query) :
    Prop :=
  ∃ o, loadOptions read i = .ok o ∧ (if i.url then Source.url t else .query t).toParams = .ok p ∧
    compileParams o p = .ok q

/-- A run that prints a query prints one that it has compiled. -/
theorem compileQuery_eq_printed (h : compileQuery read i t = .printed log out) :
    ∃ p q, Compiles read i t p q ∧
      out = Query.opening i.pretty q.sql ++ q.paramsText i.pretty ++ Query.closing i.pretty := by
  unfold compileQuery at h
  split at h
  · cases h
  rename_i o ho
  dsimp only at h
  split at h
  · cases h
  rename_i q hq
  obtain ⟨p, hp, hq⟩ := bind_eq_ok.mp hq
  cases h
  exact ⟨p, q, ⟨o, ho, hp, hq⟩, q.text_eq i.pretty⟩

/-- A run that compiles a query prints it. -/
theorem Compiles.printed {p : Params} {q : Query} (h : Compiles read i t p q) :
    ∃ log out, compileQuery read i t = .printed log out := by
  obtain ⟨o, ho, hp, hq⟩ := h
  have hcompile : compile o (if i.url then .url t else .query t) = .ok q := by
    rw [compile, hp]
    exact hq
  unfold compileQuery
  rw [ho]
  dsimp only
  rw [hcompile]
  exact ⟨_, _, rfl⟩

theorem Compiles.unique {p p' : Params} {q q' : Query} (h : Compiles read i t p q)
    (h' : Compiles read i t p' q') : p = p' ∧ q = q' := by
  obtain ⟨o, ho, hp, hq⟩ := h
  obtain ⟨o', ho', hp', hq'⟩ := h'
  cases ho.symm.trans ho'
  cases hp.symm.trans hp'
  cases hq.symm.trans hq'
  exact ⟨rfl, rfl⟩

/-- The parameters that a run prints are the literals of its filter. -/
theorem Compiles.literals {p : Params} {q : Query} (h : Compiles read i t p q) {f : Text}
    (hf : p.directives .filter = some f) :
    q.params = (Lexer.tokenize f).filterMap fun token => token.kind.literal? := by
  obtain ⟨o, _, _, hq⟩ := h
  obtain ⟨s, hs, rfl⟩ := compileParams_eq_ok hq
  obtain ⟨stages, rfl⟩ := Options.statement_eq_ok hs
  exact (stages.params_of_filter hf).1

/-- The arrays that two runs print, in whatever layout, are the same only where the parameters are,
a number out of range taken for `null`; so runs without such numbers are told apart. A parameter is
printed as `null` where its literal is that word or a number out of range, and nowhere else. -/
theorem printed_params_told (h : compileQuery read i t = .printed log out)
    (h' : compileQuery read' i' t' = .printed log' out') :
    ∃ p q p' q', Compiles read i t p q ∧ Compiles read' i' t' p' q' ∧
      out = Query.opening i.pretty q.sql ++ q.paramsText i.pretty ++ Query.closing i.pretty ∧
      out' = Query.opening i'.pretty q'.sql ++ q'.paramsText i'.pretty ++ Query.closing i'.pretty ∧
      (q.paramsText i.pretty = q'.paramsText i'.pretty →
        q.params.map Value.told = q'.params.map Value.told) ∧
      (i.pretty = i'.pretty → q.params.map Value.told = q'.params.map Value.told →
        q.paramsText i.pretty = q'.paramsText i'.pretty) ∧
      (q.params.all Value.isFinite = true → q'.params.all Value.isFinite = true →
        q.params ≠ q'.params → q.paramsText i.pretty ≠ q'.paramsText i'.pretty) ∧
      ∀ f, p.directives .filter = some f →
        q.params = (Lexer.tokenize f).filterMap (fun token => token.kind.literal?) ∧
        ∀ token ∈ Lexer.tokenize f, ∀ v, token.kind.literal? = some v →
          (v.json = "null".toList ↔
            token.kind = .keyword .null ∨ ∃ x, token.kind = .float x ∧ x.isFinite = false) := by
  obtain ⟨p, q, hq, hout⟩ := compileQuery_eq_printed h
  obtain ⟨p', q', hq', hout'⟩ := compileQuery_eq_printed h'
  refine ⟨p, q, p', q', hq, hq', hout, hout', Query.paramsText_inj, ?_, ?_, ?_⟩
  · intro hpretty hsame
    rw [← hpretty]
    exact Query.paramsText_congr hsame
  · intro hfinite hfinite' hne heq
    have hself : ∀ vs : List Value, vs.all Value.isFinite = true → vs.map Value.told = vs := by
      intro vs hvs
      have hid : vs.map Value.told = vs.map id :=
        List.map_congr_left fun v hv =>
          Value.told_eq_self_iff.mpr (List.all_eq_true.mp hvs v hv)
      rwa [List.map_id] at hid
    have htold := Query.paramsText_inj heq
    rw [hself _ hfinite, hself _ hfinite'] at htold
    exact hne htold
  · intro f hf
    exact ⟨hq.literals hf, fun token _ v hv => TokenKind.json_eq_null hv⟩

/-- An integer and a whole number with a point are told apart, in two layouts. -/
theorem printed_params_told_whole :
    ∃ p q p' q', Compiles (fun _ => none) {} "$filter=a eq 1".toList p q ∧
      Compiles (fun _ => none) { pretty := true } "$filter=a eq 1.0".toList p' q' ∧
      q.params.all Value.isFinite = true ∧ q'.params.all Value.isFinite = true ∧
      q.params ≠ q'.params ∧ q.paramsText false ≠ q'.paramsText true := by
  have hone : Compiles (fun _ => none) {} "$filter=a eq 1".toList
      ⟨[("$filter".toList, "a eq 1".toList)]⟩
      ⟨"SELECT * FROM my_table WHERE a = ?".toList, [.int 1]⟩ :=
    ⟨{}, rfl, by decide +kernel, by decide +kernel⟩
  have hwhole : Compiles (fun _ => none) { pretty := true } "$filter=a eq 1.0".toList
      ⟨[("$filter".toList, "a eq 1.0".toList)]⟩
      ⟨"SELECT * FROM my_table WHERE a = ?".toList, [.float (.ofNat 1)]⟩ :=
    ⟨{}, rfl, by decide +kernel, by decide +kernel⟩
  obtain ⟨_, _, h⟩ := hone.printed
  obtain ⟨_, _, h'⟩ := hwhole.printed
  obtain ⟨p, q, p', q', hq, hq', _, _, _, _, differ, _⟩ := printed_params_told h h'
  obtain ⟨rfl, rfl⟩ := hq.unique hone
  obtain ⟨rfl, rfl⟩ := hq'.unique hwhole
  have hne : [Value.int 1] ≠ [Value.float (.ofNat 1)] := by decide
  exact ⟨_, _, _, _, hone, hwhole, rfl, by decide, hne, differ rfl (by decide) hne⟩

/-- A number out of range is printed as `null` is, though it is another parameter: the printed array
does not always tell the parameters. -/
theorem overflow_printed_null :
    (∃ out, run (fun _ => none) none ["$filter=a eq 1e999".toList] = .printed [] out ∧
      run (fun _ => none) none ["$filter=a eq null".toList] = .printed [] out) ∧
    ∃ q q', compile {} (.query "$filter=a eq 1e999".toList) = .ok q ∧
      compile {} (.query "$filter=a eq null".toList) = .ok q' ∧
      q.params ≠ q'.params ∧ q.paramsText false = q'.paramsText false := by
  have hrun : run (fun _ => none) none ["$filter=a eq 1e999".toList] = .printed []
      "\x7b\"sql\":\"SELECT * FROM my_table WHERE a = ?\",\"params\":[null]\x7d".toList := by
    decide +kernel
  have hrun' : run (fun _ => none) none ["$filter=a eq null".toList] = .printed []
      "\x7b\"sql\":\"SELECT * FROM my_table WHERE a = ?\",\"params\":[null]\x7d".toList := by
    decide +kernel
  have h : compile {} (.query "$filter=a eq 1e999".toList) = .ok
      ⟨"SELECT * FROM my_table WHERE a = ?".toList, [.float (.infinity false)]⟩ := by
    decide +kernel
  have h' : compile {} (.query "$filter=a eq null".toList) = .ok
      ⟨"SELECT * FROM my_table WHERE a = ?".toList, [.null]⟩ := by
    decide +kernel
  exact ⟨⟨_, hrun, hrun'⟩, _, _, h, h', by decide, by decide⟩

end CommandLine

end RequestSql
