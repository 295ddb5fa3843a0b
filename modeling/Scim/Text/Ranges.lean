/-!
# Sets of code points

A character class of the Unicode standard is a union of a few hundred intervals.  This module holds
the one representation that all character classes of the library share: the list of the intervals,
each by its first and its last code point.  Membership is a linear search, so that a fact about a
table is a fact about every interval in it.
-/

namespace Scim.Text

/-- A set of code points: the union of closed intervals, each given by its two ends. -/
abbrev Ranges := List (Nat × Nat)

/-- Whether a character lies in one of the intervals. -/
def Ranges.has (ranges : Ranges) (c : Char) : Bool :=
  ranges.any fun (first, last) => first ≤ c.toNat && c.toNat ≤ last

end Scim.Text
