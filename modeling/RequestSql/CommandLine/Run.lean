import RequestSql.CommandLine.Arguments
import RequestSql.Log
import RequestSql.Options.Codec

namespace RequestSql.CommandLine

inductive Failure where
  | unreadable (path : Text)
  | malformed (path : Text)
  | compile (e : CompileError)
  deriving DecidableEq

def Failure.message : Failure → Text
  | .unreadable path => "Error: reading ".toList ++ path
  | .malformed path => "Error: parsing ".toList ++ path
  | .compile e => "Error: ".toList ++ e.message

inductive Outcome where
  | printed (log : List Text) (output : Text)
  | failed (log : List Text) (failure : Failure)
  | usage
  deriving DecidableEq

def version : Text :=
  "oxide-odata 0.1.0".toList

def help : Text :=
  "Compile OData-style query strings into parameterized SQL

Usage: oxide-odata [OPTIONS] <QUERY>

Arguments:
  <QUERY>  Query string, e.g. \"$select=name&$filter=age gt 18\"

Options:
      --url                                    Treat the query argument as a request URL and compile its query part
  -t, --table <TABLE>                          Primary table
  -a, --alias <ALIAS>                          Alias of the primary table
  -s, --schema <SCHEMA>                        JSON schema file [env: OXIDE_ODATA_SCHEMA=]
  -p, --placeholder-style <PLACEHOLDER_STYLE>  Placeholder style (mysql or postgres)
  -o, --options <OPTIONS>                      JSON file with full compile options. Other flags override it
      --pretty                                 Pretty-print the JSON output
  -v, --verbose                                Enable verbose output
  -h, --help                                   Print help
  -V, --version                                Print version".toList

def readJson {α : Type} (read : Text → Option Text) (parse : Text → Except Json.Fault α)
    (path : Text) : Except Failure α :=
  match read path with
  | none => .error (.unreadable path)
  | some t =>
    match parse t with
    | .ok a => .ok a
    | .error _ => .error (.malformed path)

def loadOptions (read : Text → Option Text) (i : Invocation) : Except Failure Options := do
  let o ←
    match i.options with
    | some path => readJson read Options.parse path
    | none => .ok {}
  let schema ←
    match i.schema with
    | some path => readJson read Schema.parse path
    | none => .ok o.schema
  return {
    table := i.table.getD o.table
    aliasName := i.aliasName <|> o.aliasName
    schema
    style := i.style.getD o.style }

def logLines (verbose : Bool) (o : Options) (source : Source) : List Text :=
  if verbose then
    Log.lines ((Event.loadedOptions o.table o.schema.tables.entries.length ::
      o.requestEvents source).filter fun e => e.level == .debug)
  else []

def compileQuery (read : Text → Option Text) (i : Invocation) (query : Text) : Outcome :=
  match loadOptions read i with
  | .error failure => .failed [] failure
  | .ok o =>
    let source := if i.url then Source.url query else Source.query query
    let log := logLines i.verbose o source
    match compile o source with
    | .error e => .failed log (.compile e)
    | .ok q => .printed log (if i.pretty then q.toJson.pretty else q.toJson.compact)

def run (read : Text → Option Text) (defaultSchema : Option Text) (arguments : List Text) :
    Outcome :=
  match Arguments.parse defaultSchema arguments with
  | .error .usage => .usage
  | .error .help => .printed [] help
  | .error .version => .printed [] version
  | .ok (i, query) => compileQuery read i query

end RequestSql.CommandLine
