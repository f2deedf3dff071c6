/-
Ranges of code points. A property of characters is a list of the ranges that
have it, in ascending order.
-/

namespace IdentitySearch.Text

/-- A range of code points, both ends included. -/
abbrev CodeRange := Nat × Nat

/-- Whether a character lies in one of the ranges. -/
def inRanges (ranges : List CodeRange) (c : Char) : Bool :=
  ranges.any fun (first, last) => first ≤ c.toNat && c.toNat ≤ last

end IdentitySearch.Text
