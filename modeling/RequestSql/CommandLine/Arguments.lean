import RequestSql.Sql.Fragment

namespace RequestSql

structure Invocation where
  query : Option Text := none
  url : Bool := false
  table : Option Text := none
  aliasName : Option Text := none
  schema : Option Text := none
  style : Option PlaceholderStyle := none
  options : Option Text := none
  pretty : Bool := false
  verbose : Bool := false
  deriving DecidableEq

inductive Flag where
  | url | pretty | verbose | help | version
  deriving DecidableEq

inductive Setting where
  | table | aliasName | schema | style | options
  deriving DecidableEq

namespace Arguments

inductive Stop where
  | usage
  | help
  | version
  deriving DecidableEq

def flagOfName? (name : Text) : Option Flag :=
  if name = "url".toList then some .url
  else if name = "pretty".toList then some .pretty
  else if name = "verbose".toList then some .verbose
  else if name = "help".toList then some .help
  else if name = "version".toList then some .version
  else none

def settingOfName? (name : Text) : Option Setting :=
  if name = "table".toList then some .table
  else if name = "alias".toList then some .aliasName
  else if name = "schema".toList then some .schema
  else if name = "placeholder-style".toList then some .style
  else if name = "options".toList then some .options
  else none

def flagOfLetter? : Char → Option Flag
  | 'v' => some .verbose
  | 'h' => some .help
  | 'V' => some .version
  | _ => none

def settingOfLetter? : Char → Option Setting
  | 't' => some .table
  | 'a' => some .aliasName
  | 's' => some .schema
  | 'p' => some .style
  | 'o' => some .options
  | _ => none

def fill {α : Type} (place : Option α) (a : α) : Except Stop (Option α) :=
  if place.isSome then .error .usage else .ok (some a)

def fillPath (place : Option Text) (path : Text) : Except Stop (Option Text) :=
  if path.isEmpty then .error .usage else fill place path

def raise (flag : Bool) : Except Stop Bool :=
  if flag then .error .usage else .ok true

def setFlag (i : Invocation) : Flag → Except Stop Invocation
  | .url => do return { i with url := ← raise i.url }
  | .pretty => do return { i with pretty := ← raise i.pretty }
  | .verbose => do return { i with verbose := ← raise i.verbose }
  | .help => .error .help
  | .version => .error .version

def set (i : Invocation) (value : Text) : Setting → Except Stop Invocation
  | .table => do return { i with table := ← fill i.table value }
  | .aliasName => do return { i with aliasName := ← fill i.aliasName value }
  | .schema => do return { i with schema := ← fillPath i.schema value }
  | .options => do return { i with options := ← fillPath i.options value }
  | .style =>
    match PlaceholderStyle.ofName? value with
    | some style => do return { i with style := ← fill i.style style }
    | none => .error .usage

def setQuery (i : Invocation) (value : Text) : Except Stop Invocation := do
  return { i with query := ← fill i.query value }

/-- Joined letters. The rest of an argument after an option that takes a value is that value;
without a rest the value is still to come. -/
def readLetters (i : Invocation) : Text → Except Stop (Invocation × Option Setting)
  | [] => .ok (i, none)
  | c :: rest =>
    match flagOfLetter? c with
    | some flag => do readLetters (← setFlag i flag) rest
    | none =>
      match settingOfLetter? c, rest with
      | some setting, [] => .ok (i, some setting)
      | some setting, '=' :: value => do return (← set i value setting, none)
      | some setting, value => do return (← set i value setting, none)
      | none, _ => .error .usage

def readName (i : Invocation) (t : Text) : Except Stop (Invocation × Option Setting) :=
  match Text.cut '=' t with
  | some (name, value) =>
    match settingOfName? name with
    | some setting => do return (← set i value setting, none)
    | none => .error .usage
  | none =>
    match flagOfName? t, settingOfName? t with
    | some flag, _ => do return (← setFlag i flag, none)
    | none, some setting => .ok (i, some setting)
    | none, none => .error .usage

/-- Reads arguments. An option may be waiting for its value, which does not begin with a hyphen.
After two hyphens there are no more options. -/
def read (i : Invocation) : Option Setting → List Text → Except Stop Invocation
  | none, [] => .ok i
  | some _, [] => .error .usage
  | waiting, argument :: rest =>
    match argument, waiting with
    | '-' :: '-' :: [], none => rest.foldlM setQuery i
    | '-' :: _ :: _, some _ => .error .usage
    | '-' :: '-' :: name, none => do
      let (i, waiting) ← readName i name
      read i waiting rest
    | '-' :: letter :: letters, none => do
      let (i, waiting) ← readLetters i (letter :: letters)
      read i waiting rest
    | value, some setting => do read (← set i value setting) none rest
    | value, none => do read (← setQuery i value) none rest

/-- Reads all arguments. The schema file may come from the environment, and there has to be a
query. -/
def parse (defaultSchema : Option Text) (arguments : List Text) :
    Except Stop (Invocation × Text) := do
  let i ← read {} none arguments
  let schema ←
    match i.schema, defaultSchema with
    | none, some path => fillPath none path
    | schema, _ => .ok schema
  match i.query with
  | some query => return ({ i with schema }, query)
  | none => .error .usage

end Arguments

end RequestSql
