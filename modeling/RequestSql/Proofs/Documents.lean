import RequestSql.Json.Value

namespace RequestSql.Json

def StringBody.ofText (t : Text) : StringBody :=
  ⟨t.map .char, none⟩

mutual

def node : Json → Node
  | .null => .null
  | .bool b => .bool b
  -- The digits of a number are left to the scanner: nothing below reads them back.
  | .number n => (scanNode 1 n.text).1
  | .string t => .string (.ofText t)
  | .array items => .array (itemNodes items)
  | .object members => .object (memberNodes members)

def itemNodes : List Json → Items
  | [] => .closed
  | item :: rest => .cons item.node (itemNodes rest)

def memberNodes : List (Text × Json) → Members
  | [] => .closed
  | (key, value) :: rest => .cons (.ofText key) value.node (memberNodes rest)

end

mutual

def isNumberless : Json → Bool
  | .number _ => false
  | .array items => areNumberless items
  | .object members => membersNumberless members
  | _ => true

def areNumberless : List Json → Bool
  | [] => true
  | item :: rest => item.isNumberless && areNumberless rest

def membersNumberless : List (Text × Json) → Bool
  | [] => true
  | (_, value) :: rest => value.isNumberless && membersNumberless rest

end

section Strings

variable {c : Char} {rest : Text}

/-- The four digits after which a control character is escaped stand for its code. -/
theorem hexCode_control (h : c < ' ') :
    hexCode? '0' '0' (hexDigit (c.toNat / 16)) (hexDigit (c.toNat % 16)) = some c.toNat := by
  have hall : (List.range 32).all fun n =>
      hexCode? '0' '0' (hexDigit (n / 16)) (hexDigit (n % 16)) == some n := by decide
  exact beq_iff_eq.mp (List.all_eq_true.mp hall c.toNat (List.mem_range.mpr h))

theorem scanString_control (h : c < ' ') : scanString ("\\u00".toList ++
    [hexDigit (c.toNat / 16), hexDigit (c.toNat % 16)] ++ rest) =
      pushUnit (.char c) (scanString rest) := by
  have hunit : unitOfCode c.toNat = .char c := by
    have hc : c.toNat < 32 := h
    rw [unitOfCode, if_neg (by omega), Char.ofNat_toNat]
  change scanString ('\\' :: 'u' :: '0' :: '0' :: hexDigit (c.toNat / 16) ::
    hexDigit (c.toNat % 16) :: rest) = _
  rw [scanString, hexCode_control h]
  simp only [hunit]

theorem scanString_plain (hquote : c ≠ '"') (hslash : c ≠ '\\') (h : ¬ c < ' ') :
    scanString (c :: rest) = pushUnit (.char c) (scanString rest) := by
  rw [scanString, if_neg h]
  all_goals simp [hquote, hslash]

/-- A character is scanned back from its escaped form. -/
theorem scanString_escape (c : Char) (rest : Text) :
    scanString (escape c ++ rest) = pushUnit (.char c) (scanString rest) := by
  by_cases hs : c ∈ ['"', '\\', '\x08', '\x0c', '\n', '\r', '\t']
  · simp only [List.mem_cons, List.not_mem_nil, or_false] at hs
    rcases hs with rfl | rfl | rfl | rfl | rfl | rfl | rfl <;> rfl
  · simp only [List.mem_cons, List.not_mem_nil, or_false, not_or] at hs
    obtain ⟨hquote, hslash, hb, hf, hn, hr, ht⟩ := hs
    simp only [escape, hquote, hslash, hb, hf, hn, hr, ht, if_false]
    split
    · exact scanString_control ‹_›
    · exact scanString_plain hquote hslash ‹_›

/-- A string is scanned back up to its closing quote. -/
theorem scanString_quote (t rest : Text) :
    scanString (t.flatMap escape ++ '"' :: rest) = (.ofText t, rest) := by
  induction t with
  | nil => rfl
  | cons c t ih =>
    rw [List.flatMap_cons, List.append_assoc, scanString_escape, ih]
    rfl

end Strings

def itemsText (item : Json) (items : List Json) (rest : Text) : Text :=
  compact item ++ (compactItems items ++ ']' :: rest)

def membersText (key : Text) (value : Json) (members : List (Text × Json)) (rest : Text) : Text :=
  quote key ++ ':' :: (compact value ++ (compactMembers members ++ '\x7d' :: rest))

/-- With this much fuel, what is written in as many characters is scanned back. -/
structure Scans (fuel : Nat) : Prop where
  node : ∀ (j : Json) (rest : Text), j.isNumberless = true → (compact j).length ≤ fuel →
    scanNode fuel (compact j ++ rest) = (j.node, rest)
  items : ∀ (item : Json) (items : List Json) (rest : Text),
    areNumberless (item :: items) = true →
    (compact item).length + (compactItems items).length + 1 ≤ fuel →
    scanItems fuel (itemsText item items rest) = (itemNodes (item :: items), rest)
  members : ∀ (key : Text) (value : Json) (members : List (Text × Json)) (rest : Text),
    membersNumberless ((key, value) :: members) = true →
    (quote key).length + (compact value).length + (compactMembers members).length + 1 ≤ fuel →
    scanMembers fuel (membersText key value members rest) =
      (memberNodes ((key, value) :: members), rest)

section Steps

variable {fuel : Nat} {j item value : Json}

theorem skipSpace_cons {c : Char} (h : isSpace c = false) (t : Text) :
    skipSpace (c :: t) = c :: t := by
  simp [skipSpace, h]

/-- A value begins with a character that neither is white space nor closes an array. -/
theorem compact_head (h : j.isNumberless = true) :
    ∃ c t, compact j = c :: t ∧ isSpace c = false ∧ c ≠ ']' := by
  cases j with
  | null => exact ⟨'n', "ull".toList, rfl, by decide, by decide⟩
  | bool b =>
    cases b with
    | true => exact ⟨'t', "rue".toList, rfl, by decide, by decide⟩
    | false => exact ⟨'f', "alse".toList, rfl, by decide, by decide⟩
  | number n => simp [isNumberless] at h
  | string t => exact ⟨'"', _, rfl, by decide, by decide⟩
  | array items =>
    cases items with
    | nil => exact ⟨'[', [']'], rfl, by decide, by decide⟩
    | cons item items => exact ⟨'[', _, rfl, by decide, by decide⟩
  | object members =>
    cases members with
    | nil => exact ⟨'\x7b', ['\x7d'], rfl, by decide, by decide⟩
    | cons m members => exact ⟨'\x7b', _, rfl, by decide, by decide⟩

theorem scanNode_array (ih : Scans fuel) {items : List Json} (rest : Text)
    (h : areNumberless (item :: items) = true)
    (hf : (compact item).length + (compactItems items).length + 1 ≤ fuel) :
    scanNode (fuel + 1) ('[' :: itemsText item items rest) =
      (.array (itemNodes (item :: items)), rest) := by
  have hitems := ih.items item items rest h hf
  rw [areNumberless, Bool.and_eq_true] at h
  obtain ⟨c, t, hc, hspace, hclose⟩ := compact_head h.1
  rw [itemsText, hc, List.cons_append] at hitems ⊢
  rw [scanNode, skipSpace_cons (by decide)]
  simp only [skipSpace_cons hspace]
  split
  · rename_i hrest
    exact absurd (List.cons.inj hrest).1 hclose
  · rw [hitems]

theorem quote_append (t rest : Text) :
    quote t ++ rest = '"' :: (t.flatMap escape ++ '"' :: rest) := by
  simp [quote]

theorem scanNode_object (ih : Scans fuel) {members : List (Text × Json)} (key rest : Text)
    (h : membersNumberless ((key, value) :: members) = true)
    (hf : (quote key).length + (compact value).length + (compactMembers members).length + 1 ≤
      fuel) :
    scanNode (fuel + 1) ('\x7b' :: membersText key value members rest) =
      (.object (memberNodes ((key, value) :: members)), rest) := by
  have hmembers := ih.members key value members rest h hf
  rw [membersText, quote_append] at hmembers ⊢
  rw [scanNode, skipSpace_cons (by decide)]
  simp only [skipSpace_cons (show isSpace '"' = false by decide)]
  split
  · rename_i hrest
    exact absurd (List.cons.inj hrest).1 (by decide)
  · rw [hmembers]

theorem Scans.node_succ (ih : Scans fuel) (rest : Text) (h : j.isNumberless = true)
    (hf : (compact j).length ≤ fuel + 1) :
    scanNode (fuel + 1) (compact j ++ rest) = (j.node, rest) := by
  cases j with
  | null => rfl
  | bool b => cases b <;> rfl
  | number n => simp [isNumberless] at h
  | string t =>
    rw [compact, quote_append, scanNode, skipSpace_cons (by decide)]
    simp only [scanString_quote, Json.node]
  | array items =>
    cases items with
    | nil => rfl
    | cons item items =>
      simp only [compact, List.length_cons, List.length_append, List.length_nil] at hf
      have harray := scanNode_array ih rest h (by omega)
      simpa [compact, itemsText, Json.node] using harray
  | object members =>
    cases members with
    | nil => rfl
    | cons m members =>
      obtain ⟨key, value⟩ := m
      simp only [compact, List.length_cons, List.length_append, List.length_nil] at hf
      have hobject := scanNode_object ih key rest h (by omega)
      simpa [compact, membersText, Json.node] using hobject

theorem Scans.items_succ (ih : Scans fuel) {items : List Json} (rest : Text)
    (h : areNumberless (item :: items) = true)
    (hf : (compact item).length + (compactItems items).length + 1 ≤ fuel + 1) :
    scanItems (fuel + 1) (itemsText item items rest) = (itemNodes (item :: items), rest) := by
  rw [areNumberless, Bool.and_eq_true] at h
  rw [itemsText, scanItems, ih.node item _ h.1 (by omega)]
  cases items with
  | nil => rfl
  | cons next items =>
    simp only [compactItems, List.length_cons, List.length_append] at hf
    have hitems := ih.items next items rest h.2 (by omega)
    rw [itemsText] at hitems
    simp only [compactItems, List.cons_append, List.append_assoc,
      skipSpace_cons (show isSpace ',' = false by decide), hitems, itemNodes]

theorem Scans.members_succ (ih : Scans fuel) (key : Text) {members : List (Text × Json)}
    (rest : Text) (h : membersNumberless ((key, value) :: members) = true)
    (hf : (quote key).length + (compact value).length + (compactMembers members).length + 1 ≤
      fuel + 1) :
    scanMembers (fuel + 1) (membersText key value members rest) =
      (memberNodes ((key, value) :: members), rest) := by
  rw [membersNumberless, Bool.and_eq_true] at h
  rw [membersText, quote_append, scanMembers, skipSpace_cons (by decide)]
  simp only [scanString_quote, skipSpace_cons (show isSpace ':' = false by decide)]
  rw [ih.node value _ h.1 (by omega)]
  cases members with
  | nil => rfl
  | cons m members =>
    obtain ⟨next, nextValue⟩ := m
    simp only [compactMembers, List.length_cons, List.length_append] at hf
    have hmembers := ih.members next nextValue members rest h.2 (by omega)
    rw [membersText] at hmembers
    simp only [compactMembers, List.cons_append, List.append_assoc,
      skipSpace_cons (show isSpace ',' = false by decide), hmembers, memberNodes]

end Steps

theorem scans (fuel : Nat) : Scans fuel := by
  induction fuel with
  | zero =>
    refine ⟨fun j rest h hf => ?_, fun _ _ _ _ hf => ?_, fun _ _ _ _ _ hf => ?_⟩
    · obtain ⟨c, t, hc, _⟩ := compact_head h
      rw [hc] at hf
      cases hf
    · omega
    · omega
  | succ fuel ih =>
    -- A step spends one unit of fuel, and each of them takes at least one character.
    exact ⟨fun _ => ih.node_succ, fun _ _ => ih.items_succ, fun key _ _ => ih.members_succ key⟩

/-- A text that spells a value, with white space wherever it may stand. -/
structure Spells (t : Text) (j : Json) : Prop where
  value : (scanDocument t).1 = j.node
  after : skipSpace (scanDocument t).2 = []

/-- Reading a text that spells a value is reading the node that the value is written as. -/
theorem Spells.decode_eq {α : Type} {t : Text} {j : Json} (h : Spells t j)
    (read : Node → Except Fault α) : decode read t = read j.node := by
  simp only [decode, h.value, h.after]
  cases read j.node <;> rfl

theorem spells_compact {j : Json} (h : j.isNumberless = true) : Spells (compact j) j := by
  have hscan := (scans (2 * (compact j).length + 2)).node j [] h (by omega)
  rw [List.append_nil] at hscan
  exact ⟨congrArg Prod.fst hscan, congrArg (fun r => skipSpace r.2) hscan⟩

theorem decode_compact {α : Type} {j : Json} (read : Node → Except Fault α)
    (h : j.isNumberless = true) : decode read (compact j) = read j.node :=
  (spells_compact h).decode_eq read

end RequestSql.Json
