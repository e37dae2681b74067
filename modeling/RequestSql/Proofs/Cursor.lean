import RequestSql.Proofs.Tiling

namespace RequestSql

open Text (isBlank isNameStart isNamePart)

/-- A place in a text: the byte offsets at which the current token begins and up to which the text has
been read. -/
structure Cursor where
  text : Text
  start : Nat
  pos : Nat

namespace Cursor

def ahead? (s : Cursor) : Option Text :=
  (s.text.cutAt? s.pos).map Prod.snd

def peek? (s : Cursor) : Option (Option Char) :=
  s.ahead?.map List.head?

def peekNext? (s : Cursor) : Option (Option Char) :=
  s.ahead?.map fun t => t.tail.head?

def advance? (s : Cursor) : Option Cursor := do
  match ← s.peek? with
  | some c => some { s with pos := s.pos + c.utf8Size }
  | none => some s

def mark (s : Cursor) : Cursor :=
  { s with start := s.pos }

def span (s : Cursor) : Span :=
  ⟨s.start, s.pos⟩

def lexeme? (s : Cursor) : Option Text :=
  s.text.slice? s.start s.pos

def room (s : Cursor) : Nat :=
  Text.byteSize s.text - s.pos

/-- Takes a step until it gives an answer. A step that has read nothing would be taken for ever, so
there is no answer then. -/
def loop? {σ β : Type} (step : σ → Cursor → Option (β ⊕ σ × Cursor)) (x : σ) (s : Cursor) : Option β :=
  match step x s with
  | none => none
  | some (.inl answer) => some answer
  | some (.inr (x, s')) => if s'.room < s.room then loop? step x s' else none
termination_by s.room

def skipStep? (p : Char → Bool) (_ : Unit) (s : Cursor) : Option (Cursor ⊕ Unit × Cursor) := do
  let c ← s.peek?
  if c.any p then
    let s ← s.advance?
    some (.inr ((), s))
  else some (.inl s)

def skip? (p : Char → Bool) (s : Cursor) : Option Cursor :=
  s.loop? (skipStep? p) ()

def wordStep? (qualified : Bool) (s : Cursor) :
    Option ((Bool × Cursor) ⊕ Bool × Cursor) := do
  let s ← s.skip? isNamePart
  let c ← s.peek?
  let d ← s.peekNext?
  if c == some '.' && d.any isNameStart then
    let s ← s.advance?
    some (.inr (true, s))
  else some (.inl (qualified, s))

/-- Passes over the words of a name, and says whether a point has been among them. -/
def words? (qualified : Bool) (s : Cursor) : Option (Bool × Cursor) :=
  s.loop? wordStep? qualified

def name? (s : Cursor) : Option (TokenKind × Cursor) := do
  let (qualified, s) ← s.words? false
  let text ← s.lexeme?
  if qualified then some (.identifier text, s)
  else
    match Keyword.ofText? text with
    | some k => some (.keyword k, s)
    | none => some (.identifier text, s)

def one? (p : Char → Bool) (s : Cursor) : Option Cursor := do
  let c ← s.peek?
  if c.any p then s.advance? else some s

def fraction? (s : Cursor) : Option (Bool × Cursor) := do
  let c ← s.peek?
  let d ← s.peekNext?
  if c == some '.' && d.any Char.isDigit then
    let s ← s.advance?
    let s ← s.skip? Char.isDigit
    some (true, s)
  else some (false, s)

def exponent? (s : Cursor) : Option (Bool × Cursor) := do
  let c ← s.peek?
  if c == some 'e' || c == some 'E' then
    let s ← s.advance?
    let s ← s.one? fun c => c == '+' || c == '-'
    let s ← s.skip? Char.isDigit
    some (true, s)
  else some (false, s)

def integerOf (text : Text) : TokenKind :=
  if text.head? = some '-' then Lexer.integerKind true text.tail else Lexer.integerKind false text

def floatOf (text : Text) : TokenKind :=
  match Binary64.read? text with
  | some x => .float x
  | none => .error .invalidFloat

def parts? (s : Cursor) : Option (Bool × Cursor) := do
  let s ← s.one? (· == '-')
  let s ← s.skip? Char.isDigit
  let (pointed, s) ← s.fraction?
  let (powered, s) ← s.exponent?
  some (pointed || powered, s)

def number? (s : Cursor) : Option (TokenKind × Cursor) := do
  let (isFloat, s) ← s.parts?
  let c ← s.peek?
  if c.any isNameStart then
    let s ← s.skip? isNamePart
    let text ← s.lexeme?
    some (.error (.invalidNumber text), s)
  else
    let text ← s.lexeme?
    some (if isFloat then floatOf text else integerOf text, s)

def contentStep? (value : Text) (s : Cursor) :
    Option ((Option Text × Cursor) ⊕ Text × Cursor) := do
  match ← s.peek? with
  | none => some (.inl (none, s))
  | some c =>
    if c = '\'' then
      let d ← s.peekNext?
      if d == some '\'' then
        let s ← s.advance?
        let s ← s.advance?
        some (.inr (value ++ ['\''], s))
      else some (.inl (some value, s))
    else
      let s ← s.advance?
      some (.inr (value ++ [c], s))

def content? (value : Text) (s : Cursor) : Option (Option Text × Cursor) :=
  s.loop? contentStep? value

def string? (s : Cursor) : Option (TokenKind × Cursor) := do
  let s ← s.advance?
  let (value, s) ← s.content? []
  match value with
  | some value =>
    let s ← s.advance?
    some (.string value, s)
  | none => some (.error .unterminatedString, s)

def token? (c : Char) (s : Cursor) : Option (TokenKind × Cursor) := do
  let d ← s.peekNext?
  if c = '(' then
    let s ← s.advance?
    some (.leftParen, s)
  else if c = ')' then
    let s ← s.advance?
    some (.rightParen, s)
  else if c = '\'' then s.string?
  else if c.isDigit || (c == '-' && d.any Char.isDigit) then s.number?
  else if isNameStart c then s.name?
  else
    let s ← s.advance?
    some (.error (.unexpectedCharacter c), s)

def next? (s : Cursor) : Option (Token × Cursor) := do
  let s ← s.skip? isBlank
  let s := s.mark
  let c ← s.peek?
  match c with
  | none => some (⟨.eof, s.span⟩, s)
  | some c =>
    let (kind, s) ← s.token? c
    some (⟨kind, s.span⟩, s)

def tokenStep? (ts : List Token) (s : Cursor) : Option (List Token ⊕ List Token × Cursor) := do
  let (token, s) ← s.next?
  if token.kind = .eof then some (.inl (ts ++ [token])) else some (.inr (ts ++ [token], s))

def tokens? (ts : List Token) (s : Cursor) : Option (List Token) :=
  s.loop? tokenStep? ts

def tokenize? (t : Text) : Option (List Token) :=
  tokens? [] ⟨t, 0, 0⟩

section Loops

variable {σ β : Type} {step : σ → Cursor → Option (β ⊕ σ × Cursor)} {x x' : σ} {s s' : Cursor}

theorem loop?_answer {answer : β} (h : step x s = some (.inl answer)) :
    s.loop? step x = some answer := by
  rw [loop?, h]

theorem loop?_turn (h : step x s = some (.inr (x', s'))) (hroom : s'.room < s.room) :
    s.loop? step x = s'.loop? step x' := by
  rw [loop?, h]
  exact if_pos hroom

/-- Two places where a step does the same are the start of the same loop. -/
theorem loop?_congr (h : step x s = step x' s') (hroom : s'.room ≤ s.room)
    (hturn : ∀ y u, step x' s' = some (.inr (y, u)) → u.room < s'.room) :
    s.loop? step x = s'.loop? step x' := by
  rw [loop?, loop?, h]
  split
  · rfl
  · rfl
  · rename_i y u hu
    have := hturn y u hu
    rw [if_pos this, if_pos (by omega)]

end Loops

section Moves

variable {start : Nat} {before after : Text} {c : Char}

def between (start : Nat) (before after : Text) : Cursor :=
  ⟨before ++ after, start, Text.byteSize before⟩

@[simp] theorem ahead?_between : (between start before after).ahead? = some after := by
  rw [ahead?, between, Text.cutAt?_append]
  rfl

@[simp] theorem peek?_between : (between start before after).peek? = some after.head? := by
  rw [peek?, ahead?_between]
  rfl

@[simp] theorem peekNext?_between :
    (between start before after).peekNext? = some after.tail.head? := by
  rw [peekNext?, ahead?_between]
  rfl

@[simp] theorem advance?_between : (between start before (c :: after)).advance? =
    some (between start (before ++ [c]) after) := by
  rw [advance?, peek?_between]
  simp [between, Text.byteSize_append, Text.byteSize]

@[simp] theorem mark_between :
    (between start before after).mark = between (Text.byteSize before) before after :=
  rfl

@[simp] theorem span_between :
    (between start before after).span = ⟨start, Text.byteSize before⟩ :=
  rfl

theorem lexeme?_between (u w after : Text) :
    (between (Text.byteSize u) (u ++ w) after).lexeme? = some w := by
  rw [lexeme?, between]
  exact Text.slice?_append u w after

@[simp] theorem room_between : (between start before after).room = Text.byteSize after := by
  rw [room, between, Text.byteSize_append, Nat.add_sub_cancel_left]

theorem room_cons (before' : Text) :
    (between start before' after).room < (between start before (c :: after)).room := by
  have := c.utf8Size_pos
  rw [room_between, room_between, Text.byteSize]
  omega

/-- A run of characters of a class is passed over as a whole. -/
theorem skip?_between (p : Char → Bool) : (between start before after).skip? p =
    some (between start (before ++ after.takeWhile p) (after.dropWhile p)) := by
  induction after generalizing before with
  | nil =>
    have hend : (between start before []).skip? p = some (between start before []) :=
      loop?_answer (by simp [skipStep?])
    rw [hend]
    simp
  | cons c after ih =>
    cases hc : p c with
    | true =>
      have hturn : (between start before (c :: after)).skip? p =
          (between start (before ++ [c]) after).skip? p :=
        loop?_turn (by simp [skipStep?, hc]) (room_cons _)
      rw [hturn, ih]
      simp [hc]
    | false =>
      have hend : (between start before (c :: after)).skip? p =
          some (between start before (c :: after)) :=
        loop?_answer (by simp [skipStep?, hc])
      rw [hend]
      simp [hc]

end Moves

section Names

variable {start : Nat} {before after tail rest : Text} {c : Char} {qualified : Bool}

theorem words?_point (hd : after.head?.any isNameStart = true) :
    (between start before ('.' :: after)).words? qualified =
      (between start (before ++ ['.']) after).words? true := by
  have hpoint : ¬isNamePart '.' = true := by decide
  refine loop?_turn ?_ (room_cons _)
  rw [wordStep?, skip?_between, List.takeWhile_cons_of_neg hpoint, List.dropWhile_cons_of_neg hpoint]
  simp [hd]

theorem words?_end (hpart : after.head?.any isNamePart = false)
    (hpoint : ¬(after.head? = some '.' ∧ after.tail.head?.any isNameStart = true)) :
    (between start before after).words? qualified = some (qualified, between start before after) := by
  have hskip : (between start before after).skip? isNamePart = some (between start before after) := by
    rw [skip?_between]
    cases after with
    | nil => simp
    | cons c after =>
      have hc : ¬isNamePart c = true := by simpa using hpart
      rw [List.takeWhile_cons_of_neg hc, List.dropWhile_cons_of_neg hc, List.append_nil]
  refine loop?_answer ?_
  rw [wordStep?, hskip]
  simp only [Option.bind_eq_bind, Option.bind_some, peek?_between, peekNext?_between]
  rw [if_neg (by simpa using hpoint)]

/-- A turn of the loop leaves less to be read than what follows the first word. -/
theorem wordStep?_room {x : Bool} {s : Cursor}
    (h : wordStep? qualified (between start before after) = some (.inr (x, s))) :
    s.room < (between start before after).room := by
  rw [wordStep?, skip?_between] at h
  simp only [Option.bind_eq_bind, Option.bind_some, peek?_between, peekNext?_between] at h
  have hsplit := congrArg Text.byteSize
    (List.takeWhile_append_dropWhile (p := isNamePart) (l := after))
  rw [Text.byteSize_append] at hsplit
  cases hrest : after.dropWhile isNamePart with
  | nil => simp [hrest] at h
  | cons c rest =>
    rw [hrest] at h hsplit
    split at h
    · simp only [advance?_between, Option.bind_some, Option.some.injEq, Sum.inr.injEq,
        Prod.mk.injEq] at h
      have := c.utf8Size_pos
      rw [← h.2, room_between, room_between, ← hsplit, Text.byteSize]
      omega
    · cases h

theorem words?_part (hc : isNamePart c = true) :
    (between start before (c :: after)).words? qualified =
      (between start (before ++ [c]) after).words? qualified := by
  refine loop?_congr ?_ (Nat.le_of_lt (room_cons _)) fun _ _ => wordStep?_room
  rw [wordStep?, wordStep?, skip?_between, skip?_between, List.takeWhile_cons_of_pos hc,
    List.dropWhile_cons_of_pos hc, List.append_assoc, List.singleton_append]

/-- A name is read up to its end, and it is qualified where a point is in it. -/
theorem words?_between (h : Lexer.nameTail (tail ++ rest) = tail) :
    (between start before (tail ++ rest)).words? qualified =
      some (qualified || tail.contains '.', between start (before ++ tail) rest) := by
  induction tail generalizing before qualified with
  | nil =>
    rw [List.nil_append] at h ⊢
    obtain ⟨hpart, hpoint⟩ := Lexer.nameTail_eq_nil.mp h
    rw [words?_end hpart hpoint, List.append_nil, List.contains_nil, Bool.or_false]
  | cons c tail ih =>
    rw [List.cons_append] at h ⊢
    obtain ⟨htail, hpart | ⟨rfl, hpoint⟩⟩ := Lexer.nameTail_eq_cons.mp h
    · have hc : c ≠ '.' := Text.ne_of_class hpart (by decide)
      rw [words?_part hpart, ih htail, List.append_assoc, List.singleton_append]
      simp [hc.symm]
    · rw [words?_point hpoint, ih htail, List.append_assoc, List.singleton_append]
      simp

theorem name?_between (u : Text) (hc : isNameStart c = true)
    (h : Lexer.nameTail (tail ++ rest) = tail) :
    (between (Text.byteSize u) u (c :: tail ++ rest)).name? =
      some (Lexer.nameKind (c :: tail), between (Text.byteSize u) (u ++ c :: tail) rest) := by
  have hpart := Lexer.isNamePart_of_isNameStart hc
  have hpoint : c ≠ '.' := Text.ne_of_class hpart (by decide)
  have hname : Lexer.nameTail (c :: tail ++ rest) = c :: tail := by
    rw [List.cons_append]
    exact Lexer.nameTail_eq_cons.mpr ⟨h, .inl hpart⟩
  rw [name?, words?_between hname]
  simp only [Option.bind_eq_bind, Option.bind_some, lexeme?_between, Lexer.nameKind,
    Bool.false_or, List.contains_iff_mem]
  split
  · rfl
  · cases Keyword.ofText? (c :: tail) <;> rfl

end Names

section Numbers

variable {start : Nat} {before sign whole fraction exponent rest : Text}

theorem sign?_between {t : Text} (h : sign = ['-'] ∨ sign = [] ∧ t.head? ≠ some '-') :
    (between start before (sign ++ t)).one? (· == '-') =
      some (between start (before ++ sign) t) := by
  rcases h with rfl | ⟨rfl, hhead⟩
  · simp [one?]
  · cases t with
    | nil => simp [one?]
    | cons c t =>
      have hc : c ≠ '-' := by simpa using hhead
      simp [one?, hc]

theorem digits?_between (h : Lexer.DigitRun whole rest) :
    (between start before (whole ++ rest)).skip? Char.isDigit =
      some (between start (before ++ whole) rest) := by
  have htake : (whole ++ rest).takeWhile Char.isDigit = whole := congrArg Prod.fst h
  have hdrop : (whole ++ rest).dropWhile Char.isDigit = rest := congrArg Prod.snd h
  rw [skip?_between, htake, hdrop]

theorem fraction?_between (h : Lexer.Fraction fraction rest) :
    (between start before (fraction ++ rest)).fraction? =
      some (!fraction.isEmpty, between start (before ++ fraction) rest) := by
  cases h with
  | absent unpointed =>
    simp only [fraction?, List.nil_append, Option.bind_eq_bind, peek?_between, peekNext?_between,
      Option.bind_some]
    rw [if_neg (by simpa using unpointed), List.append_nil]
    rfl
  | @present digits _ nonempty run =>
    have hd : (digits ++ rest).head?.any Char.isDigit = true := by
      obtain ⟨d, digits, rfl⟩ := List.exists_cons_of_ne_nil nonempty
      exact run.isDigit_of_mem List.mem_cons_self
    simp only [fraction?, List.cons_append, Option.bind_eq_bind, peek?_between, peekNext?_between,
      Option.bind_some, advance?_between, digits?_between run]
    rw [if_pos (by simpa using hd), List.append_assoc]
    rfl

theorem exponentSign?_between {t : Text} (h : Lexer.ExponentSign sign t) :
    (between start before (sign ++ t)).one? (fun c => c == '+' || c == '-') =
      some (between start (before ++ sign) t) := by
  rcases h with rfl | rfl | ⟨rfl, hplus, hminus⟩
  · simp [one?]
  · simp [one?]
  · cases t with
    | nil => simp [one?]
    | cons c t =>
      have hc : c ≠ '+' ∧ c ≠ '-' := ⟨by simpa using hplus, by simpa using hminus⟩
      simp [one?, hc]

theorem exponent?_between (h : Lexer.Exponent exponent rest) :
    (between start before (exponent ++ rest)).exponent? =
      some (!exponent.isEmpty, between start (before ++ exponent) rest) := by
  cases h with
  | absent unpowered =>
    simp only [exponent?, List.nil_append, Option.bind_eq_bind, peek?_between, Option.bind_some]
    rw [if_neg (by simpa using unpowered), List.append_nil]
    rfl
  | @present e sign digits _ letter signed run =>
    simp only [exponent?, List.cons_append, List.append_assoc, Option.bind_eq_bind, peek?_between,
      Option.bind_some, advance?_between, exponentSign?_between signed, digits?_between run]
    rw [if_pos (by simpa using letter)]
    simp

theorem parts?_between (h : Lexer.NumberParts sign whole fraction exponent rest) :
    (between start before (sign ++ whole ++ fraction ++ exponent ++ rest)).parts? =
      some (!fraction.isEmpty || !exponent.isEmpty,
        between start (before ++ (sign ++ whole ++ fraction ++ exponent)) rest) := by
  simp only [parts?, List.append_assoc, Option.bind_eq_bind, Option.bind_some, sign?_between h.sign,
    digits?_between h.whole, fraction?_between h.fraction, exponent?_between h.exponent]

/-- The kind of a number is read off its whole text. -/
theorem numberKind_eq (h : Lexer.NumberParts sign whole fraction exponent rest) (hne : whole ≠ []) :
    (if !fraction.isEmpty || !exponent.isEmpty then floatOf (sign ++ whole ++ fraction ++ exponent)
      else integerOf (sign ++ whole ++ fraction ++ exponent)) =
      Lexer.numberKind sign whole fraction exponent := by
  by_cases hplain : fraction.isEmpty = true ∧ exponent.isEmpty = true
  · obtain ⟨hf, he⟩ := hplain
    obtain rfl := List.isEmpty_iff.mp hf
    obtain rfl := List.isEmpty_iff.mp he
    obtain ⟨d, digits, rfl⟩ := List.exists_cons_of_ne_nil hne
    have hd := h.whole.isDigit_of_mem List.mem_cons_self
    have hminus : d ≠ '-' := Text.ne_of_class hd (by decide)
    rcases h.sign with rfl | ⟨rfl, _⟩
    · simp [integerOf, Lexer.numberKind]
    · simp [integerOf, Lexer.numberKind, hminus]
  · have hmarked : (!fraction.isEmpty || !exponent.isEmpty) = true := by
      rw [← Bool.not_and, Bool.not_eq_true', ← Bool.not_eq_true, Bool.and_eq_true]
      exact hplain
    rw [if_pos hmarked, Lexer.numberKind, if_neg (by simpa using hplain)]
    rfl

theorem number?_between (u : Text) (h : Lexer.NumberParts sign whole fraction exponent rest)
    (hne : whole ≠ []) (hapart : rest.head?.any isNameStart = false) :
    (between (Text.byteSize u) u (sign ++ whole ++ fraction ++ exponent ++ rest)).number? =
      some (Lexer.numberKind sign whole fraction exponent,
        between (Text.byteSize u) (u ++ (sign ++ whole ++ fraction ++ exponent)) rest) := by
  rw [number?, parts?_between h, ← numberKind_eq h hne]
  simp only [Option.bind_eq_bind, Option.bind_some, peek?_between, lexeme?_between]
  rw [if_neg (by simp [hapart])]

theorem number?_malformed (u : Text) {word : Text}
    (h : Lexer.NumberParts sign whole fraction exponent (word ++ rest))
    (hletter : word.head?.any isNameStart = true)
    (hmax : (word ++ rest).takeWhile isNamePart = word) :
    (between (Text.byteSize u) u (sign ++ whole ++ fraction ++ exponent ++ word ++ rest)).number? =
      some (.error (.invalidNumber (sign ++ whole ++ fraction ++ exponent ++ word)),
        between (Text.byteSize u) (u ++ (sign ++ whole ++ fraction ++ exponent ++ word)) rest) := by
  have hhead : (word ++ rest).head?.any isNameStart = true := by
    cases word with
    | nil => cases hletter
    | cons c word => exact hletter
  have hdrop : (word ++ rest).dropWhile isNamePart = rest := by
    have hsplit := List.takeWhile_append_dropWhile (p := isNamePart) (l := word ++ rest)
    rw [hmax] at hsplit
    exact List.append_cancel_left hsplit
  rw [List.append_assoc, number?, parts?_between h]
  simp only [Option.bind_eq_bind, Option.bind_some, peek?_between, skip?_between, hmax, hdrop]
  rw [if_pos hhead, List.append_assoc, lexeme?_between]
  rfl

end Numbers

section Strings

variable {start : Nat} {before value rest : Text}

theorem content?_end : (between start before []).content? value =
    some (none, between start before []) :=
  loop?_answer (by simp [contentStep?])

theorem content?_quotes : (between start before ('\'' :: '\'' :: rest)).content? value =
    (between start (before ++ ['\'', '\'']) rest).content? (value ++ ['\'']) := by
  refine loop?_turn (by simp [contentStep?]) ?_
  have hquote := '\''.utf8Size_pos
  simp only [room_between, Text.byteSize]
  omega

theorem content?_close (hrest : rest.head? ≠ some '\'') :
    (between start before ('\'' :: rest)).content? value =
      some (some value, between start before ('\'' :: rest)) :=
  loop?_answer (by simp [contentStep?, hrest])

theorem content?_cons {c : Char} (hc : c ≠ '\'') :
    (between start before (c :: rest)).content? value =
      (between start (before ++ [c]) rest).content? (value ++ [c]) :=
  loop?_turn (by simp [contentStep?, hc]) (room_cons _)

/-- The content of a string is read up to the quote that closes it. -/
theorem content?_doubled (hrest : rest.head? ≠ some '\'') (t : Text) :
    (between start before (Lexer.doubled t ++ '\'' :: rest)).content? value =
      some (some (value ++ t), between start (before ++ Lexer.doubled t) ('\'' :: rest)) := by
  induction t generalizing before value with
  | nil =>
    rw [Lexer.doubled, List.flatMap_nil, List.nil_append, content?_close hrest, List.append_nil,
      List.append_nil]
  | cons c t ih =>
    rw [Lexer.doubled, List.flatMap_cons, ← Lexer.doubled]
    by_cases hc : c = '\''
    · subst hc
      simp only [if_true, List.cons_append, List.nil_append]
      rw [content?_quotes, ih]
      simp only [List.append_assoc, List.cons_append, List.nil_append]
    · simp only [if_neg hc, List.cons_append, List.nil_append]
      rw [content?_cons hc, ih]
      simp only [List.append_assoc, List.cons_append, List.nil_append]

/-- A string without a closing quote is read up to the end. -/
theorem content?_unclosed {t : Text} (h : Lexer.quotedContent t = none) :
    (between start before t).content? value = some (none, between start (before ++ t) []) := by
  fun_induction Lexer.quotedContent t generalizing before value with
  | case1 => rw [content?_end, List.append_nil]
  | case2 rest ih =>
    rw [content?_quotes, ih (Option.map_eq_none_iff.mp h), List.append_assoc]
    rfl
  | case3 rest hne => cases h
  | case4 c rest _ hc ih =>
    have hc : c ≠ '\'' := hc
    rw [content?_cons hc, ih (Option.map_eq_none_iff.mp h), List.append_assoc]
    rfl

end Strings

section Tokens

variable {u w rest : Text} {kind : TokenKind} {c : Char} {tail : Text}

theorem string?_closed (t : Text) (hrest : rest.head? ≠ some '\'') :
    (between (Text.byteSize u) u (Text.quoted t ++ rest)).string? =
      some (.string t, between (Text.byteSize u) (u ++ Text.quoted t) rest) := by
  have hquoted : Text.quoted t = '\'' :: (Lexer.doubled t ++ ['\'']) := rfl
  rw [hquoted, List.cons_append, List.append_assoc, List.singleton_append]
  simp only [string?, Option.bind_eq_bind, advance?_between, Option.bind_some,
    content?_doubled hrest]
  simp

theorem string?_unclosed (h : Lexer.quotedContent tail = none) :
    (between (Text.byteSize u) u ('\'' :: tail)).string? =
      some (.error .unterminatedString, between (Text.byteSize u) (u ++ '\'' :: tail) []) := by
  simp only [string?, Option.bind_eq_bind, advance?_between, Option.bind_some, content?_unclosed h]
  simp

/-- The token that a character begins is told by it and, after a minus sign, by the next one. -/
theorem token?_eq (start : Nat) (before after : Text) :
    (between start before (c :: after)).token? c =
      if c = '(' then some (.leftParen, between start (before ++ [c]) after)
      else if c = ')' then some (.rightParen, between start (before ++ [c]) after)
      else if c = '\'' then (between start before (c :: after)).string?
      else if c.isDigit || (c == '-' && after.head?.any Char.isDigit) then
        (between start before (c :: after)).number?
      else if isNameStart c then (between start before (c :: after)).name?
      else some (.error (.unexpectedCharacter c), between start (before ++ [c]) after) := by
  simp only [token?, Option.bind_eq_bind, peekNext?_between, advance?_between, Option.bind_some,
    List.tail_cons]

/-- A token is read up to its end. -/
theorem token?_between (h : Lexer.Scanned (c :: tail) kind rest) :
    (between (Text.byteSize u) u (c :: tail ++ rest)).token? c =
      some (kind, between (Text.byteSize u) (u ++ c :: tail) rest) := by
  rw [List.cons_append, token?_eq, ← List.cons_append]
  generalize hw : c :: tail = w at h
  cases h with
  | leftParen =>
    cases hw
    rfl
  | rightParen =>
    cases hw
    rfl
  | @string t _ closed =>
    cases hw
    rw [if_neg (by decide), if_neg (by decide), if_pos rfl]
    exact string?_closed t closed
  | unterminated unclosed =>
    cases hw
    rw [if_neg (by decide), if_neg (by decide), if_pos rfl, List.append_nil]
    exact string?_unclosed unclosed
  | number parts digits apart =>
    have hwhole := congrArg (· ++ rest) hw
    simp only [List.cons_append, List.append_assoc] at hwhole
    obtain ⟨hnumber, _, hopen, hclose, hquote⟩ := parts.first digits hwhole
    rw [if_neg hopen, if_neg hclose, if_neg hquote, if_pos hnumber, number?_between u parts digits apart]
  | malformed parts digits letter maximal =>
    have hwhole := congrArg (· ++ rest) hw
    simp only [List.cons_append, List.append_assoc] at hwhole
    obtain ⟨hnumber, _, hopen, hclose, hquote⟩ := parts.first digits hwhole
    rw [if_neg hopen, if_neg hclose, if_neg hquote, if_pos hnumber,
      number?_malformed u parts letter maximal]
  | name start maximal =>
    cases hw
    have hnumber : (c.isDigit || (c == '-' && (tail ++ rest).head?.any Char.isDigit)) = false := by
      rw [Lexer.isDigit_of_isNameStart start,
        beq_eq_false_iff_ne.mpr (Text.ne_of_class start (by decide))]
      rfl
    rw [if_neg (Text.ne_of_class start (by decide)), if_neg (Text.ne_of_class start (by decide)),
      if_neg (Text.ne_of_class start (by decide)), if_neg (ne_true_of_eq_false hnumber), if_pos start]
    exact name?_between u start maximal
  | unexpected visible symbol number name =>
    cases hw
    obtain ⟨hopen, hclose, hquote⟩ := symbol
    rw [if_neg hopen, if_neg hclose, if_neg hquote, if_neg (by simp [number]),
      if_neg (by simp [name])]
    rfl

/-- White space is passed over up to what is not blank. -/
theorem skip?_blank (start : Nat) (before : Text) {gap t : Text} (hgap : Text.isAllBlank gap = true)
    (ht : t.head?.any isBlank = false) : (between start before (gap ++ t)).skip? isBlank =
      some (between start (before ++ gap) t) := by
  have htake : (gap ++ t).takeWhile isBlank = gap := by
    rw [List.takeWhile_append_of_pos (List.all_eq_true.mp hgap)]
    cases t with
    | nil => simp
    | cons c t =>
      have hc : ¬isBlank c = true := by simpa using ht
      rw [List.takeWhile_cons_of_neg hc, List.append_nil]
  have hsplit := List.takeWhile_append_dropWhile (p := isBlank) (l := gap ++ t)
  rw [htake] at hsplit
  rw [skip?_between, htake, List.append_cancel_left hsplit]

theorem next?_end {start : Nat} {before gap : Text} (hgap : Text.isAllBlank gap = true) :
    (between start before gap).next? =
      some (⟨.eof, ⟨Text.byteSize (before ++ gap), Text.byteSize (before ++ gap)⟩⟩,
        between (Text.byteSize (before ++ gap)) (before ++ gap) []) := by
  have hskip := skip?_blank start before (t := []) hgap rfl
  rw [List.append_nil] at hskip
  rw [next?, hskip]
  simp

theorem next?_token {start : Nat} {before gap : Text} (hgap : Text.isAllBlank gap = true)
    (h : Lexer.Scanned w kind rest) : (between start before (gap ++ w ++ rest)).next? =
      some (⟨kind, ⟨Text.byteSize (before ++ gap), Text.byteSize (before ++ gap ++ w)⟩⟩,
        between (Text.byteSize (before ++ gap)) (before ++ gap ++ w) rest) := by
  obtain ⟨c, tail, rfl, hblank, _⟩ := h.scans
  rw [next?, List.append_assoc, skip?_blank _ _ hgap (by simpa using hblank)]
  simp only [Option.bind_eq_bind, Option.bind_some, mark_between, peek?_between, List.cons_append,
    List.head?_cons]
  rw [← List.cons_append, token?_between h]
  rfl

/-- The cursor gives the tokens that tile the rest of its text, and then the end of input. -/
theorem tokens?_between {offset : Nat} {t : Text} {ts : List Token} (h : Lexer.Tiled offset t ts)
    (us : List Token) (start : Nat) (before : Text) (hb : offset = Text.byteSize before) :
    (between start before t).tokens? us =
      some (us ++ ts ++ [⟨.eof, ⟨offset + Text.byteSize t, offset + Text.byteSize t⟩⟩]) := by
  induction h generalizing us start before with
  | blank white =>
    rw [tokens?, loop?_answer (by rw [tokenStep?, next?_end white]; rfl), hb,
      Text.byteSize_append, List.append_nil]
  | @token offset gap w kind rest ts white scanned more ih =>
    have hoffset : offset + Text.byteSize (gap ++ w) = Text.byteSize (before ++ gap ++ w) := by
      rw [hb, List.append_assoc, Text.byteSize_append before]
    have hroom : (between (Text.byteSize (before ++ gap)) (before ++ gap ++ w) rest).room <
        (between start before (gap ++ w ++ rest)).room := by
      have := Text.byteSize_pos scanned.ne_nil
      simp only [room_between, Text.byteSize_append]
      omega
    rw [tokens?, loop?_turn (by
      rw [tokenStep?, next?_token white scanned]
      exact if_neg scanned.ne_eof) hroom, ← tokens?, ih _ _ _ hoffset]
    rw [hb, Text.byteSize_append before, List.append_assoc before, Text.byteSize_append before,
      Text.byteSize_append (gap ++ w), Nat.add_assoc]
    simp only [List.append_assoc, List.cons_append, List.nil_append]

end Tokens

/-- The cursor reaches the end of every text and never takes a slice that does not exist: its tokens
are those of the text. -/
theorem tokenize?_eq (t : Text) : tokenize? t = some (Lexer.tokenize t) := by
  have h := tokens?_between (Lexer.tiled_tokensFrom 0 t) [] 0 [] rfl
  rw [Nat.zero_add] at h
  exact h

end Cursor

/-- The tokens of a text tile it. A lexer that reads the text by byte offsets ends with these tokens,
without a slice off a character boundary or out of range. -/
theorem tokens_tile (t : Text) : Lexer.Tiling t (Lexer.tokenize t) ∧
    Cursor.tokenize? t = some (Lexer.tokenize t) :=
  ⟨Lexer.tiling_tokenize t, Cursor.tokenize?_eq t⟩

end RequestSql
