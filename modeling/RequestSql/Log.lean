import RequestSql.Query
import RequestSql.Text.Printable

namespace RequestSql

inductive Event where
  | loadedOptions (table : Text) (tables : Nat)
  | compiling (table : Text) (aliasName : Option Text) (style : PlaceholderStyle)
  | selectIgnored
  | parsedFilter (params : Nat)
  | joinRequired (table aliasName : Text)
  | plannedJoins (joins : Nat)
  | compiled (params : Nat)
  | query (q : Query)
  deriving DecidableEq

inductive LogLevel where
  | debug | trace
  deriving DecidableEq

def LogLevel.text : LogLevel → Text
  | .debug => "DEBUG".toList
  | .trace => "TRACE".toList

namespace Log

def escape (c : Char) : Text :=
  if c = '"' then "\\\"".toList
  else if c = '\\' then "\\\\".toList
  else if c = '\n' then "\\n".toList
  else if c = '\r' then "\\r".toList
  else if c = '\t' then "\\t".toList
  else if c = '\x00' then "\\0".toList
  else if Text.isPrintable c then [c]
  else "\\u\x7b".toList ++ Nat.toDigits 16 c.toNat ++ ['\x7d']

def quote (t : Text) : Text :=
  '"' :: t.flatMap escape ++ ['"']

end Log

namespace Event

/-- Single joins and the text of a query are the finer reports. -/
def level : Event → LogLevel
  | .joinRequired .. => .trace
  | .query _ => .trace
  | _ => .debug

def message : Event → Text
  | .loadedOptions table tables =>
    "loaded options table=".toList ++ table ++ " tables=".toList ++ Text.ofNat tables
  | .compiling table aliasName style =>
    let aliasText :=
      match aliasName with
      | some a => "Some(".toList ++ Log.quote a ++ [')']
      | none => "None".toList
    "compiling query table=".toList ++ Log.quote table ++ " alias=".toList ++ aliasText ++
      " dialect=".toList ++ Log.quote style.name
  | .selectIgnored => "$select ignored because $apply is present".toList
  | .parsedFilter params => "parsed $filter params=".toList ++ Text.ofNat params
  | .joinRequired table aliasName =>
    "join required table=".toList ++ table ++ " alias=".toList ++ Log.quote aliasName
  | .plannedJoins joins => "planned joins joins=".toList ++ Text.ofNat joins
  | .compiled params => "compiled query params=".toList ++ Text.ofNat params
  | .query q =>
    "sql=".toList ++ q.sql ++ " params=".toList ++ Text.commaList (q.params.map Value.inline)

def text (e : Event) : Text :=
  e.level.text ++ ' ' :: e.message

end Event

namespace Log

/-- The lines of reports, without white space around them. A report has more than one where a value
in it does, and a line may be empty. -/
def lines (events : List Event) : List Text :=
  events.flatMap fun e => (Text.splitOn '\n' e.text).map Text.trim

def after {α : Type} (step : Except CompileError α) (rest : α → List Event) : List Event :=
  match step with
  | .ok a => rest a
  | .error _ => []

end Log

namespace Options

open Log (after)

def statementEvents (o : Options) (s : Statement) : List Event :=
  s.joins.map (fun j => .joinRequired j.table j.aliasName) ++
    [.plannedJoins s.joins.length, .compiled s.params.length, .query (.ofStatement o.style s)]

def events (o : Options) (given : Directives) : List Event :=
  after o.check fun _ =>
    .compiling o.table o.effectiveAlias o.style ::
      after (o.expansions given) fun expansions =>
        (if (given .apply).isSome && (given .select).isSome then [.selectIgnored] else []) ++
          after (o.projection given expansions) fun projection =>
            after (given.read .filter o.parseFilter) fun filter =>
              (filter.toList.map fun f => .parsedFilter f.paramCount) ++
                after (o.clauses given) fun clauses =>
                  o.statementEvents (o.assemble expansions projection filter clauses)

def requestEvents (o : Options) (source : Source) : List Event :=
  after source.toParams fun p => o.events p.directives

end Options

end RequestSql
