import RequestSql.Sql.Value

namespace RequestSql

/-- A range of bytes of the UTF-8 text, without its end. -/
structure Span where
  start : Nat
  stop : Nat
  deriving DecidableEq

def Span.merge (a b : Span) : Span :=
  ⟨min a.start b.start, max a.stop b.stop⟩

inductive Keyword where
  | and | or | not
  | eq | ne | gt | ge | lt | le
  | true | false | null
  deriving DecidableEq

namespace Keyword

def all : List Keyword :=
  [.and, .or, .not, .eq, .ne, .gt, .ge, .lt, .le, .true, .false, .null]

def text : Keyword → Text
  | .and => "and".toList
  | .or => "or".toList
  | .not => "not".toList
  | .eq => "eq".toList
  | .ne => "ne".toList
  | .gt => "gt".toList
  | .ge => "ge".toList
  | .lt => "lt".toList
  | .le => "le".toList
  | .true => "true".toList
  | .false => "false".toList
  | .null => "null".toList

/-- The reserved word that a word in any case of letters spells. -/
def ofText? (word : Text) : Option Keyword :=
  all.find? fun k => k.text == Text.asciiLower word

end Keyword

inductive LexError where
  | unterminatedString
  | unexpectedCharacter (c : Char)
  | invalidNumber (text : Text)
  | invalidFloat
  | integerTooLarge
  | integerTooSmall
  deriving DecidableEq

def LexError.message : LexError → Text
  | .unterminatedString => "Unterminated string literal".toList
  | .unexpectedCharacter c => "Unexpected character: ".toList ++ [c]
  | .invalidNumber text => "Invalid number: ".toList ++ text
  | .invalidFloat => "Invalid float: invalid float literal".toList
  | .integerTooLarge => "Invalid integer: number too large to fit in target type".toList
  | .integerTooSmall => "Invalid integer: number too small to fit in target type".toList

inductive TokenKind where
  | integer (n : Int64)
  | float (x : Binary64)
  | string (t : Text)
  | identifier (name : Text)
  | keyword (k : Keyword)
  | leftParen
  | rightParen
  | eof
  | error (e : LexError)
  deriving DecidableEq

namespace TokenKind

def text : TokenKind → Text
  | .integer n => Text.ofInt n.toInt
  | .float x => x.plain
  | .string t => '\'' :: t ++ ['\'']
  | .identifier name => name
  | .keyword k => k.text
  | .leftParen => ['(']
  | .rightParen => [')']
  | .eof => "end of input".toList
  | .error e => e.message

def literal? : TokenKind → Option Value
  | .string t => some (.text t)
  | .integer n => some (.int n)
  | .float x => some (.float x)
  | .keyword .true => some (.bool true)
  | .keyword .false => some (.bool false)
  | .keyword .null => some .null
  | _ => none

end TokenKind

structure Token where
  kind : TokenKind
  span : Span
  deriving DecidableEq

namespace Token

def isEof (t : Token) : Bool :=
  t.kind == .eof

def keyword? (t : Token) : Option Keyword :=
  match t.kind with
  | .keyword k => some k
  | _ => none

end Token

end RequestSql
