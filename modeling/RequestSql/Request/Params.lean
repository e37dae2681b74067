import RequestSql.Request.Form

namespace RequestSql

structure Params where
  pairs : List (Text × Text) := []
  deriving DecidableEq

namespace Params

/-- The parameters of an encoded query, with or without a question mark before it. -/
def parse (query : Text) : Params :=
  match query with
  | '?' :: rest => ⟨Form.parse rest⟩
  | _ => ⟨Form.parse query⟩

def push (p : Params) (name value : Text) : Params :=
  ⟨p.pairs ++ [(name, value)]⟩

def getAll (p : Params) (name : Text) : List Text :=
  (p.pairs.filter fun pair => pair.1 == name).map Prod.snd

/-- The last value of a name. -/
def get? (p : Params) (name : Text) : Option Text :=
  (p.getAll name).getLast?

def size (p : Params) : Nat :=
  p.pairs.length

def isEmpty (p : Params) : Bool :=
  p.pairs.isEmpty

end Params

end RequestSql
