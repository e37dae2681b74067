import RequestSql.CommandLine.Run

namespace RequestSql.CommandLine

def readFile? (path : Text) : IO (Option Text) :=
  try return some (← IO.FS.readFile (String.ofList path)).toList
  catch _ => return none

def readFiles (i : Invocation) : IO (List (Text × Option Text)) :=
  (i.options.toList ++ i.schema.toList).mapM fun path => return (path, ← readFile? path)

def printLog (log : List Text) : IO Unit :=
  log.forM fun line => IO.eprintln (String.ofList line)

def execute (arguments : List Text) : IO UInt32 := do
  let defaultSchema := (← IO.getEnv "OXIDE_ODATA_SCHEMA").map String.toList
  let files ←
    match Arguments.parse defaultSchema arguments with
    | .ok (i, _) => readFiles i
    | .error _ => pure []
  match run (fun path => (files.lookup path).join) defaultSchema arguments with
  | .printed log output =>
    printLog log
    IO.println (String.ofList output)
    return 0
  | .failed log failure =>
    printLog log
    IO.eprintln (String.ofList failure.message)
    return 1
  | .usage =>
    IO.eprintln (String.ofList help)
    return 2

end RequestSql.CommandLine

def main (arguments : List String) : IO UInt32 :=
  RequestSql.CommandLine.execute (arguments.map String.toList)
