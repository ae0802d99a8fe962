/-!
# Sets of code points

A set of code points is kept as the increasing list of the points at which membership changes: the
first is the first member, the second the first non-member behind it, and so on.

## Main definitions

- `CodePointSet` — the list of changes
- `CodePointSet.contains` — membership of a character
-/

namespace ShadingGraph

/-- A set of code points, given by the points at which membership changes. -/
structure CodePointSet where
  changes : List Nat

namespace CodePointSet

/-- Follows the changes up to a code point; `inside` is the membership before the first of them. -/
def follow (n : Nat) : List Nat → Bool → Bool
  | [], inside => inside
  | c :: rest, inside => if n < c then inside else follow n rest (!inside)

/-- Whether a character belongs to the set. -/
def contains (s : CodePointSet) (c : Char) : Bool := follow c.toNat s.changes false

end CodePointSet

end ShadingGraph
