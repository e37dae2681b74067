import RequestSql.Filter.Token
import RequestSql.Text.Letter

namespace RequestSql

namespace Lexer

/-- The content of a quoted string and the number of characters up to its closing quote, given
what follows the opening quote. A quote written twice stands for one. -/
def quotedContent : Text → Option (Text × Nat)
  | [] => none
  | '\'' :: '\'' :: rest => (quotedContent rest).map fun (t, n) => ('\'' :: t, n + 2)
  | '\'' :: _ => some ([], 1)
  | c :: rest => (quotedContent rest).map fun (t, n) => (c :: t, n + 1)

/-- The part of a name after its first character. A point belongs to it where a letter or an
underscore follows. -/
def nameTail : Text → Text
  | [] => []
  | c :: rest =>
    if Text.isNamePart c then c :: nameTail rest
    else if c = '.' ∧ rest.head?.any Text.isNameStart then c :: nameTail rest
    else []

/-- A name, or the reserved word that it spells. A name with a point in it is never reserved. -/
def nameKind (name : Text) : TokenKind :=
  if '.' ∈ name then .identifier name
  else
    match Keyword.ofText? name with
    | some k => .keyword k
    | none => .identifier name

def integerKind (negative : Bool) (digits : Text) : TokenKind :=
  let n := Text.digitsValue digits
  if negative then
    if n ≤ 0x8000000000000000 then .integer (Int64.ofInt (-(n : Int))) else .error .integerTooSmall
  else
    if n < 0x8000000000000000 then .integer (Int64.ofInt n) else .error .integerTooLarge

def spanFraction (t : Text) : Text × Text :=
  match t with
  | '.' :: d :: rest =>
    if d.isDigit then
      let (digits, rest) := Decimal.spanDigits (d :: rest)
      ('.' :: digits, rest)
    else ([], t)
  | _ => ([], t)

/-- An exponent part: its letter, an optional sign and any number of digits. -/
def spanExponent (t : Text) : Text × Text :=
  match t with
  | e :: rest =>
    if e = 'e' ∨ e = 'E' then
      let (sign, rest) :=
        match rest with
        | '+' :: r => (['+'], r)
        | '-' :: r => (['-'], r)
        | _ => ([], rest)
      let (digits, rest) := Decimal.spanDigits rest
      (e :: sign ++ digits, rest)
    else ([], t)
  | [] => ([], [])

def scanNumber (t : Text) : TokenKind × Text :=
  let (sign, rest) :=
    match t with
    | '-' :: r => (['-'], r)
    | _ => ([], t)
  let (whole, rest) := Decimal.spanDigits rest
  let (fraction, rest) := spanFraction rest
  let (exponent, rest) := spanExponent rest
  let number := sign ++ whole ++ fraction ++ exponent
  if rest.head?.any Text.isNameStart then
    let text := number ++ rest.takeWhile Text.isNamePart
    (.error (.invalidNumber text), text)
  else if fraction.isEmpty && exponent.isEmpty then
    (integerKind (!sign.isEmpty) whole, number)
  else
    match Binary64.read? number with
    | some x => (.float x, number)
    | none => (.error .invalidFloat, number)

def scan (c : Char) (rest : Text) : TokenKind × Nat :=
  if c = '(' then (.leftParen, 0)
  else if c = ')' then (.rightParen, 0)
  else if c = '\'' then
    match quotedContent rest with
    | some (t, n) => (.string t, n)
    | none => (.error .unterminatedString, rest.length)
  else if c.isDigit || (c == '-' && rest.head?.any Char.isDigit) then
    let (kind, text) := scanNumber (c :: rest)
    (kind, text.length - 1)
  else if Text.isNameStart c then
    let tail := nameTail rest
    (nameKind (c :: tail), tail.length)
  else (.error (.unexpectedCharacter c), 0)

/-- The tokens of a text that starts at a byte offset, when its first `skip` characters belong to
a token already scanned. -/
def tokensFrom (offset skip : Nat) : Text → List Token
  | [] => []
  | c :: rest =>
    match skip with
    | skip + 1 => tokensFrom (offset + c.utf8Size) skip rest
    | 0 =>
      if Text.isBlank c then tokensFrom (offset + c.utf8Size) 0 rest
      else
        let (kind, n) := scan c rest
        ⟨kind, ⟨offset, offset + Text.byteSize (c :: rest.take n)⟩⟩ ::
          tokensFrom (offset + c.utf8Size) n rest

def tokens (t : Text) : List Token :=
  tokensFrom 0 0 t

/-- The end of input, an empty range at the end of the text. -/
def endToken (t : Text) : Token :=
  ⟨.eof, ⟨Text.byteSize t, Text.byteSize t⟩⟩

def tokenize (t : Text) : List Token :=
  tokens t ++ [endToken t]

end Lexer

end RequestSql
