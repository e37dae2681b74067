import RequestSql.Filter.Expr
import RequestSql.Filter.Lexer
import RequestSql.Filter.SyntaxError

namespace RequestSql

def maxDepth : Nat := 128

def maxComparisons : Nat := 1024

structure Level where
  /-- The operand before a pending `or`. -/
  disjunct : Option Filter := none
  /-- The operand before a pending `and`. -/
  conjunct : Option Filter := none
  negations : Nat := 0
  deriving DecidableEq

inductive Awaiting where
  | operand
  | operator (field : Text)
  | literal (field : Text) (op : CompareOp)
  | connective (operand : Filter)
  deriving DecidableEq

structure Reading where
  /-- The open parentheses with the levels around them, the innermost first. -/
  outer : List (Span × Level) := []
  level : Level := {}
  awaiting : Awaiting := .operand
  depth : Nat := 0
  comparisons : Nat := 0
  deriving DecidableEq

namespace Level

def conjoin (l : Level) (e : Filter) : Filter :=
  match l.conjunct with
  | some left => .logical .and left e
  | none => e

/-- Joins an operand to everything that waits for it. -/
def close (l : Level) (e : Filter) : Filter :=
  match l.disjunct with
  | some left => .logical .or left (l.conjoin e)
  | none => l.conjoin e

end Level

namespace Filter

def negate : Nat → Filter → Filter
  | 0, e => e
  | n + 1, e => negate n (.not e)

end Filter

namespace Reading

def operandRead (r : Reading) (e : Filter) : Reading :=
  { r with
    level := { r.level with negations := 0 }
    awaiting := .connective (e.negate r.level.negations)
    depth := r.depth - r.level.negations }

/-- The comparisons count as soon as their field is seen. -/
def count (r : Reading) (t : Token) : Reading :=
  match r.awaiting, t.kind with
  | .operand, .identifier _ => { r with comparisons := r.comparisons + 1 }
  | _, _ => r

def next? (r : Reading) (t : Token) : Option Reading :=
  match r.awaiting with
  | .operand =>
    match t.kind with
    | .keyword .not =>
      if r.depth < maxDepth then
        some { r with
          level := { r.level with negations := r.level.negations + 1 }
          depth := r.depth + 1 }
      else none
    | .leftParen =>
      if r.depth < maxDepth then
        some { r with
          outer := (t.span, r.level) :: r.outer
          level := {}
          depth := r.depth + 1 }
      else none
    | .identifier name =>
      if r.comparisons ≤ maxComparisons then some { r with awaiting := .operator name } else none
    | _ => none
  | .operator field =>
    match t.kind with
    | .keyword k => (CompareOp.ofKeyword? k).map fun op => { r with awaiting := .literal field op }
    | _ => none
  | .literal field op =>
    t.kind.literal?.map fun value => r.operandRead (.comparison field op value)
  | .connective e =>
    match t.kind, r.outer with
    | .keyword .and, _ =>
      some { r with
        level := { r.level with conjunct := some (r.level.conjoin e) }
        awaiting := .operand }
    | .keyword .or, _ =>
      some { r with
        level := { disjunct := some (r.level.close e) }
        awaiting := .operand }
    | .rightParen, (_, level) :: outer =>
      some (operandRead { r with outer, level, depth := r.depth - 1 } (r.level.close e))
    | _, _ => none

def complaint (r : Reading) (t : Token) : SyntaxError :=
  match r.awaiting, t.kind, r.outer with
  | .operand, .keyword .not, _ => ⟨.tooDeep, t.span⟩
  | .operand, .leftParen, _ => ⟨.tooDeep, t.span⟩
  | .operand, .identifier _, _ => ⟨.tooManyComparisons, t.span⟩
  | .operand, .error e, _ => ⟨.malformed e, t.span⟩
  | .operand, found, _ => ⟨.unexpected .operand found, t.span⟩
  | .operator _, .identifier name, _ => ⟨.unknownOperator name, t.span⟩
  | .operator _, .error e, _ => ⟨.malformed e, t.span⟩
  | .operator _, found, _ => ⟨.unexpected .operator found, t.span⟩
  | .literal _ _, .error e, _ => ⟨.malformed e, t.span⟩
  | .literal _ _, found, _ => ⟨.unexpected .literal found, t.span⟩
  | .connective _, .rightParen, [] => ⟨.unexpectedClose, t.span⟩
  | .connective _, found, [] => ⟨.unexpected .connective found, t.span⟩
  | .connective _, .eof, (opening, _) :: _ => ⟨.missingClose, opening.merge t.span⟩
  | .connective _, found, _ :: _ => ⟨.unexpected .close found, t.span⟩

def result? (r : Reading) : Option Filter :=
  match r.awaiting, r.outer with
  | .connective e, [] => some (r.level.close e)
  | _, _ => none

def openLevels (r : Reading) : Nat :=
  r.outer.foldl (fun n (_, l) => n + l.negations + 1) r.level.negations

end Reading

structure Parser where
  pending : List Token
  finish : Token
  depth : Nat := 0
  comparisons : Nat := 0
  deriving DecidableEq

namespace Parser

def ofText (t : Text) : Parser :=
  { pending := Lexer.tokens t, finish := Lexer.endToken t }

/-- Reads tokens up to the end or to the first one that may not stand at its place. Gives the
outcome, the last reading and the tokens from that place on. -/
def run (finish : Token) : Reading → List Token → Except SyntaxError Filter × Reading × List Token
  | r, [] =>
    match r.result? with
    | some e => (.ok e, r, [])
    | none => (.error (r.complaint finish), r, [])
  | r, t :: rest =>
    let counted := r.count t
    match counted.next? t with
    | some r' => run finish r' rest
    | none => (.error (counted.complaint t), counted, t :: rest)

/-- Reads one expression from where the parser stands up to the end of input. Whatever is still
open when it stops is left again, so that the depth is as before. -/
def parse (p : Parser) : Except SyntaxError Filter × Parser :=
  let (outcome, last, pending) :=
    run p.finish { depth := p.depth, comparisons := p.comparisons } p.pending
  (outcome,
    { p with pending, depth := last.depth - last.openLevels, comparisons := last.comparisons })

end Parser

def Filter.parse (t : Text) : Except SyntaxError Filter :=
  (Parser.ofText t).parse.1

end RequestSql
