/-!
# Ranges of characters

A class of characters is given by ranges of their numbers.
-/

namespace EventLog.Text

/-- First and last number of each range, in rising order. -/
abbrev CharRanges := List (Nat × Nat)

/-- Whether a character lies in one of the ranges. -/
def CharRanges.has (ranges : CharRanges) (c : Char) : Bool :=
  ranges.any fun (first, last) => first ≤ c.toNat && c.toNat ≤ last

end EventLog.Text
