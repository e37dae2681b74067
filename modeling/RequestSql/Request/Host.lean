import RequestSql.Domain.Basic
import RequestSql.Request.Form

namespace RequestSql

inductive UrlError where
  | emptyHost
  | invalidPort
  | invalidIpv4
  | invalidIpv6
  | invalidDomain
  | invalidHostCharacter
  | relativeWithoutBase
  deriving DecidableEq

def UrlError.message : UrlError → Text
  | .emptyHost => "empty host".toList
  | .invalidPort => "invalid port number".toList
  | .invalidIpv4 => "invalid IPv4 address".toList
  | .invalidIpv6 => "invalid IPv6 address".toList
  | .invalidDomain => "invalid international domain name".toList
  | .invalidHostCharacter => "invalid domain character".toList
  | .relativeWithoutBase => "relative URL without a base".toList

namespace Host

def isHexDigit (c : Char) : Bool :=
  c.isDigit || ('a' ≤ c && c ≤ 'f') || ('A' ≤ c && c ≤ 'F')

def hexDigitValue (c : Char) : Nat :=
  if c.isDigit then c.toNat - '0'.toNat else c.toLower.toNat - 'a'.toNat + 10

def numberValue (base : Nat) (digits : Text) : Nat :=
  digits.foldl (fun n c => base * n + hexDigitValue c) 0

/-- A part of an address: a decimal, octal (after a zero) or hexadecimal (after `0x`) number. -/
def addressPart? (part : Text) : Option Nat :=
  match part with
  | [] => none
  | '0' :: 'x' :: digits => if digits.all isHexDigit then some (numberValue 16 digits) else none
  | '0' :: 'X' :: digits => if digits.all isHexDigit then some (numberValue 16 digits) else none
  | '0' :: d :: digits =>
    if (d :: digits).all fun c => '0' ≤ c && c ≤ '7' then some (numberValue 8 (d :: digits))
    else none
  | digits => if digits.all Char.isDigit then some (numberValue 10 digits) else none

def addressParts (name : Text) : List Text :=
  let parts := Text.splitOn '.' name
  if parts.getLast? = some [] then parts.dropLast else parts

/-- Whether a name has to be an address: its last part is a number or made of digits. -/
def endsInNumber (name : Text) : Bool :=
  match (addressParts name).getLast? with
  | some part =>
    (!part.isEmpty && part.all Char.isDigit) || (addressPart? part).isSome
  | none => false

/-- An address of up to four numbers. All but the last are single bytes; the last one fills the
bytes that are left. -/
def isIpv4 (name : Text) : Bool :=
  let parts := addressParts name
  if 4 < parts.length then false
  else
    match parts.mapM addressPart? with
    | none => false
    | some numbers =>
      match numbers.getLast? with
      | none => false
      | some last =>
        let leading := numbers.dropLast
        last < Nat.pow 256 (4 - leading.length) && leading.all (· ≤ 255)

/-- The decimal parts of an address inside a longer one: four bytes without leading zeros. -/
def isDottedQuad (t : Text) : Bool :=
  let parts := Text.splitOn '.' t
  parts.length == 4 && parts.all fun part =>
    !part.isEmpty && part.all Char.isDigit && (part == ['0'] || part.head? != some '0') &&
      Text.digitsValue part ≤ 255

def isGroup (t : Text) : Bool :=
  !t.isEmpty && t.length ≤ 4 && t.all isHexDigit

/-- The number of groups in a list that may end in a dotted address, which counts for two. -/
def groupCount? : List Text → Option Nat
  | [] => some 0
  | [last] => if isGroup last then some 1 else if isDottedQuad last then some 2 else none
  | group :: rest => if isGroup group then (groupCount? rest).map (· + 1) else none

def groups (t : Text) : List Text :=
  if t.isEmpty then [] else Text.splitOn ':' t

def cutDouble : Text → Option (Text × Text)
  | ':' :: ':' :: rest => some ([], rest)
  | c :: rest => (cutDouble rest).map fun (before, after) => (c :: before, after)
  | [] => none

def isIpv6 (t : Text) : Bool :=
  match cutDouble t with
  | none => groupCount? (groups t) == some 8
  | some (before, after) =>
    (groups before).all isGroup &&
      (groupCount? (groups after)).any fun n => (groups before).length + n ≤ 7

def checkBracketed (host : Text) : Except UrlError Unit :=
  if host.getLast? = some ']' ∧ isIpv6 (host.drop 1).dropLast then .ok ()
  else .error .invalidIpv6

def check (host : Text) : Except UrlError Unit :=
  if host.head? = some '[' then checkBracketed host
  else
    match Domain.normalize? (Form.percentDecode (Utf8.encode host)) with
    | none => .error .invalidDomain
    | some [] => .error .emptyHost
    | some name => if endsInNumber name ∧ !isIpv4 name then .error .invalidIpv4 else .ok ()

def isForbidden (c : Char) : Bool :=
  "\x00\t\n\r #/:<>?@[\\]^|".toList.contains c

def checkPlain (host : Text) : Except UrlError Unit :=
  if host.head? = some '[' then checkBracketed host
  else if host.any isForbidden then .error .invalidHostCharacter
  else .ok ()

end Host

end RequestSql
