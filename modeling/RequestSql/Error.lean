import RequestSql.Directive.Basic
import RequestSql.Filter.SyntaxError
import RequestSql.Name
import RequestSql.Request.Host

namespace RequestSql

inductive InputKind where
  | null | boolean | number | string | array | object
  deriving DecidableEq

def InputKind.text : InputKind → Text
  | .null => "null".toList
  | .boolean => "a boolean".toList
  | .number => "a number".toList
  | .string => "a string".toList
  | .array => "an array".toList
  | .object => "an object".toList

inductive InputFault where
  | notARequest (kind : InputKind)
  | notAScalar (name : Text) (kind : InputKind)
  deriving DecidableEq

def InputFault.message : InputFault → Text
  | .notARequest kind =>
    "expected a query string, a parameter object or a request with a url, got ".toList ++ kind.text
  | .notAScalar name kind =>
    "parameter '".toList ++ name ++ "' must be a string, number or boolean, got ".toList ++
      kind.text

inductive ApplyFault where
  | shape (value : Text)
  | malformed (entry : Text)
  | uncountable (entry : Text)
  deriving DecidableEq

def ApplyFault.message : ApplyFault → Text
  | .shape value =>
    "expected 'groupby((fields), aggregate(field with func as alias, ...))', got '".toList ++
      value ++ ['\'']
  | .malformed entry => "expected 'field with func as alias', got '".toList ++ entry ++ ['\'']
  | .uncountable entry => "'*' can only be counted, got '".toList ++ entry ++ ['\'']

inductive ExpandFault where
  | unopened (value : Text)
  | unclosed (value : Text)
  | emptyEntry
  | trailing (entry : Text)
  | unsupportedOption (option table : Text)
  deriving DecidableEq

def ExpandFault.message : ExpandFault → Text
  | .unopened value => "unbalanced ')' in '".toList ++ value ++ ['\'']
  | .unclosed value => "missing ')' in '".toList ++ value ++ ['\'']
  | .emptyEntry => "empty entry".toList
  | .trailing entry => "trailing input after '".toList ++ entry ++ ['\'']
  | .unsupportedOption option table =>
    "unsupported option '".toList ++ option ++ "' for '".toList ++ table ++ ['\'']

inductive Place where
  | table
  | aliasName
  | directive (d : Directive)
  deriving DecidableEq

def Place.text : Place → Text
  | .table => "table".toList
  | .aliasName => "alias".toList
  | .directive d => d.key

inductive CompileError where
  | unsupportedInput (fault : InputFault)
  | invalidUrl (url : Text) (cause : UrlError)
  | invalidFilter (cause : SyntaxError)
  | invalidApply (fault : ApplyFault)
  | invalidPaging (directive : Directive) (value : Text)
  | invalidOrderBy (entry : Text)
  | invalidIdentifier (place : Place) (name : Text)
  | invalidExpand (fault : ExpandFault)
  | unknownRelation (table relation : Text)
  deriving DecidableEq

def CompileError.message : CompileError → Text
  | .unsupportedInput fault => "unsupported query input: ".toList ++ fault.message
  | .invalidUrl url cause =>
    "invalid request url '".toList ++ url ++ "': ".toList ++ cause.message
  | .invalidFilter cause => "invalid $filter: ".toList ++ cause.message
  | .invalidApply fault => "invalid $apply: ".toList ++ fault.message
  | .invalidPaging directive value =>
    "invalid ".toList ++ directive.key ++ " value: '".toList ++ value ++ ['\'']
  | .invalidOrderBy entry => "invalid $orderby entry: '".toList ++ entry ++ ['\'']
  | .invalidIdentifier place name =>
    "invalid identifier in ".toList ++ place.text ++ ": '".toList ++ name ++ ['\'']
  | .invalidExpand fault => "invalid $expand: ".toList ++ fault.message
  | .unknownRelation table relation =>
    "no relation from '".toList ++ table ++ "' to '".toList ++ relation ++
      "' is declared in the schema".toList

def Name.check (place : Place) (name : Text) : Except CompileError Unit :=
  if isIdentifier name then .ok () else .error (.invalidIdentifier place name)

end RequestSql
