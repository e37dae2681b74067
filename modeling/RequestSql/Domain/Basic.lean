import RequestSql.Domain.Classes
import RequestSql.Domain.Composition
import RequestSql.Domain.Mapping
import RequestSql.Domain.Punycode
import RequestSql.Text.Utf8

namespace RequestSql.Domain

/-- ASCII characters that no domain name may hold: controls, the space and the signs that end or
divide the parts of a URL. -/
def isForbidden (c : Char) : Bool :=
  c.toNat ≤ 0x20 || c.toNat == 0x7F || "%#/:<>?@[\\]^|".toList.contains c

def endsJoining (before : Text) : Bool :=
  (before.reverse.dropWhile transparentRanges.has).head?.any joinsNextRanges.has

def startsJoining (after : Text) : Bool :=
  (after.dropWhile transparentRanges.has).head?.any joinsPreviousRanges.has

def isJoiningMark (c : Char) : Bool :=
  combiningClass c == 9

/-- Joiners have to follow a mark that joins; a non-joiner may also divide letters that would
join. The first argument is what stands before. -/
def joinersFit (before : Text) : Text → Bool
  | [] => true
  | c :: rest =>
    (if c = '\u200c' then
      before.getLast?.any isJoiningMark || (endsJoining before && startsJoining rest)
    else if c = '\u200d' then before.getLast?.any isJoiningMark
    else true) && joinersFit (before ++ [c]) rest

def maxLabel : Nat := 1000

def maxSpelling : Nat := 2000

def isAscii (t : Text) : Bool :=
  t.all fun c => c.toNat < 128

def isLabel (label : Text) : Bool :=
  !label.head?.any markRanges.has && joinersFit [] label &&
    (isAscii label || label.length ≤ maxLabel)

/-- A label that was spelled with letters and digits. It has to be in normal form already. -/
def isSpelledLabel (label : Text) : Bool :=
  (label.all fun c => mapChar? c == some [c]) && composed label == label && isLabel label

def hasRightToLeft (t : Text) : Bool :=
  t.any fun c => direction c == .rightToLeft || direction c == .arabicNumber

def lastDirection? (label : Text) : Option Direction :=
  ((label.map direction).reverse.dropWhile (· == .nonspacing)).head?

/-- A label of a name in which some letter runs from right to left: it keeps to one direction, and
starts and ends in it or with a number. -/
def keepsDirection (label : Text) : Bool :=
  let directions := label.map direction
  match directions.head? with
  | none => true
  | some .rightToLeft =>
    !directions.contains .leftToRight &&
      ((lastDirection? label).any fun d =>
        d == .rightToLeft || d == .europeanNumber || d == .arabicNumber) &&
      !(directions.contains .europeanNumber && directions.contains .arabicNumber)
  | some .leftToRight =>
    !directions.contains .rightToLeft && !directions.contains .arabicNumber &&
      (lastDirection? label).any fun d => d == .leftToRight || d == .europeanNumber
  | some _ => false

def readLabel? (label : Text) : Option Text :=
  match "xn--".toList.isPrefixOf? label with
  | some digits =>
    if isAscii digits && digits.length ≤ maxSpelling then
      (Punycode.decode? digits).filter isSpelledLabel
    else none
  | none => if isLabel label then some label else none

def normalize? (bytes : List UInt8) : Option Text := do
  let name := Utf8.decodeLossy bytes
  let mapped := composed (← name.mapM mapChar?).flatten
  if mapped.any isForbidden then none
  else
    let labels ← (Text.splitOn '.' mapped).mapM readLabel?
    if labels.any hasRightToLeft && !labels.all keepsDirection then none
    else some mapped

end RequestSql.Domain
