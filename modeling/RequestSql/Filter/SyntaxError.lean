import RequestSql.Filter.Token

namespace RequestSql

inductive Expectation where
  | operand | operator | literal | close | connective
  deriving DecidableEq

def Expectation.text : Expectation → Text
  | .operand => "field name, 'not' or '('".toList
  | .operator => "comparison operator (eq, ne, gt, ge, lt, le)".toList
  | .literal => "literal".toList
  | .close => "')'".toList
  | .connective => "'and', 'or' or end of input".toList

inductive SyntaxFault where
  | unexpected (expected : Expectation) (found : TokenKind)
  | unknownOperator (name : Text)
  | malformed (e : LexError)
  | unexpectedClose
  | missingClose
  | tooDeep
  | tooManyComparisons
  deriving DecidableEq

structure SyntaxError where
  fault : SyntaxFault
  span : Span
  deriving DecidableEq

namespace SyntaxFault

def message : SyntaxFault → Text
  | .unexpected expected .eof => "Unexpected end of input: expected ".toList ++ expected.text
  | .unexpected expected found =>
    "Unexpected token: expected ".toList ++ expected.text ++ ", found ".toList ++ found.text
  | .unknownOperator name => "Unknown operator '".toList ++ name ++ ['\'']
  | .malformed e => e.message
  | .unexpectedClose => "Unbalanced parenthesis: unexpected ')'".toList
  | .missingClose => "Unbalanced parenthesis: missing ')'".toList
  | .tooDeep => "Expression nested too deeply".toList
  | .tooManyComparisons => "Expression has more than 1024 comparisons".toList

def expected? : SyntaxFault → Option Text
  | .unexpected expected _ => some expected.text
  | .unknownOperator _ => some Expectation.operator.text
  | _ => none

def found? : SyntaxFault → Option TokenKind
  | .unexpected _ found => some found
  | .unknownOperator name => some (.identifier name)
  | _ => none

end SyntaxFault

def SyntaxError.message (e : SyntaxError) : Text :=
  e.fault.message ++ " at position ".toList ++ Text.ofNat e.span.start ++ "..".toList ++
    Text.ofNat e.span.stop

end RequestSql
