import RequestSql.Number.Decimal
import RequestSql.Request.Host

namespace RequestSql.Url

/-- White space at the ends and line breaks and tabs anywhere do not belong to a URL. -/
def clean (t : Text) : Text :=
  (Text.trimBy (· ≤ ' ') t).filter fun c => c != '\t' && c != '\n' && c != '\r'

structure Parts where
  front : Text
  query : Option Text
  hasFragment : Bool

def Parts.ofText (t : Text) : Parts :=
  let (t, hasFragment) :=
    match Text.cut '#' t with
    | some (before, _) => (before, true)
    | none => (t, false)
  match Text.cut '?' t with
  | some (front, query) => { front, query := some query, hasFragment }
  | none => { front := t, query := none, hasFragment }

def Parts.isOnlyFront (p : Parts) : Bool :=
  p.query.isNone && !p.hasFragment

inductive SchemeKind where
  | file
  /-- Hosts are domain names or addresses, and a backslash is as good as a slash. -/
  | special
  | other
  deriving DecidableEq

def schemeKind (scheme : Text) : SchemeKind :=
  if scheme = "file".toList then .file
  else if ["http", "https", "ws", "wss", "ftp"].any fun s => scheme == s.toList then .special
  else .other

def isSchemeChar (c : Char) : Bool :=
  c.isAlphanum || c == '+' || c == '-' || c == '.'

/-- The scheme of a URL in lower case, and what stands after the colon. -/
def scheme? (t : Text) : Option (Text × Text) :=
  match t.head?, t.dropWhile isSchemeChar with
  | some c, ':' :: rest =>
    if c.isAlpha then some (Text.asciiLower (t.takeWhile isSchemeChar), rest) else none
  | _, _ => none

def isSlash (c : Char) : Bool :=
  c == '/' || c == '\\'

/-- A host and what stands after it: a colon ends it, but for colons in brackets. -/
def spanHost : Bool → Text → Text × Text
  | _, [] => ([], [])
  | bracketed, c :: rest =>
    if c = ':' ∧ !bracketed then ([], c :: rest)
    else
      let bracketed := if c = '[' then true else if c = ']' then false else bracketed
      let (host, after) := spanHost bracketed rest
      (c :: host, after)

def checkPort (t : Text) : Except UrlError Unit :=
  let (digits, rest) := Decimal.spanDigits t
  if 65535 < Text.digitsValue digits then .error .invalidPort
  else
    match rest with
    | [] => .ok ()
    | c :: _ => if c = '\\' then .ok () else .error .invalidPort

def checkHostPort (kind : SchemeKind) (credentials : Bool) (t : Text) : Except UrlError Unit := do
  let (host, rest) := spanHost false t
  if kind = .special then
    if host.isEmpty then .error .emptyHost
    Host.check host
  else
    Host.checkPlain host
    if host.isEmpty ∧ rest.head? = some ':' then .error .emptyHost
  match rest with
  | [] => pure ()
  | _ :: port => checkPort port
  if host.isEmpty ∧ credentials then .error .emptyHost

/-- What stands after the two slashes of a URL. User information ends at the last at sign. -/
def checkAuthority (kind : SchemeKind) (onlyFront : Bool) (t : Text) : Except UrlError Unit :=
  let isEnd (c : Char) : Bool := c == '/' || (kind == .special && c == '\\')
  let authority := t.takeWhile fun c => !isEnd c
  let atEnd := onlyFront && (t.dropWhile fun c => !isEnd c).isEmpty
  match Text.cutLast '@' authority with
  | none => checkHostPort kind false authority
  | some (user, host) =>
    if user.isEmpty ∧ host.isEmpty ∧ !atEnd then .error .emptyHost
    else checkHostPort kind (!user.isEmpty && user != [':']) host

def isDriveLetter (t : Text) : Bool :=
  match t with
  | [letter, mark] => letter.isAlpha && (mark == ':' || mark == '|')
  | _ => false

def checkFile (t : Text) : Except UrlError Unit :=
  match t with
  | a :: b :: rest =>
    if isSlash a && isSlash b then
      let host := rest.takeWhile fun c => !isSlash c
      if host.isEmpty || isDriveLetter host then .ok () else Host.check host
    else .ok ()
  | _ => .ok ()

def checkRelative (onlyFront : Bool) (t : Text) : Except UrlError Unit :=
  if 2 ≤ (t.takeWhile isSlash).length then
    match t with
    | '/' :: '/' :: rest => checkAuthority .special onlyFront rest
    | _ => checkAuthority .special onlyFront (t.dropWhile isSlash)
  else .ok ()

/-- Checks a URL. With a base, a URL of the base's scheme without an authority of its own is
relative to it. -/
def checkFront (hasBase : Bool) (p : Parts) : Except UrlError Unit :=
  match scheme? p.front with
  | some (scheme, rest) =>
    match schemeKind scheme with
    | .file => checkFile rest
    | .special =>
      if hasBase ∧ scheme = "http".toList ∧ (rest.takeWhile isSlash).length < 2 then
        checkRelative p.isOnlyFront rest
      else checkAuthority .special p.isOnlyFront (rest.dropWhile isSlash)
    | .other =>
      match rest with
      | '/' :: '/' :: rest => checkAuthority .other p.isOnlyFront rest
      | _ => .ok ()
  | none => if hasBase then checkRelative p.isOnlyFront p.front else .error .relativeWithoutBase

def isQueryByte (b : UInt8) : Bool :=
  0x20 < b && b < 0x7F && b != 0x22 && b != 0x23 && b != 0x27 && b != 0x3C && b != 0x3E

def hexDigit (n : Nat) : Char :=
  (Nat.digitChar n).toUpper

def encodeQuery (query : Text) : Text :=
  (Utf8.encode query).flatMap fun b =>
    if isQueryByte b then [Char.ofNat b.toNat]
    else ['%', hexDigit (b.toNat / 16), hexDigit (b.toNat % 16)]

def query (hasBase : Bool) (t : Text) : Except UrlError Text := do
  let p := Parts.ofText (clean t)
  checkFront hasBase p
  return encodeQuery (p.query.getD [])

end RequestSql.Url
