namespace RequestSql.Text

/-- A set of characters as closed ranges of code points in increasing order. -/
abbrev CharRanges := List (Nat × Nat)

def CharRanges.has (ranges : CharRanges) (c : Char) : Bool :=
  ranges.any fun (first, last) => first ≤ c.toNat && c.toNat ≤ last

end RequestSql.Text
