/-!
# Sets of code points

A property of characters, kept as the ascending list of the code points at which it changes
(`CodeSet`): the first opens a range of code points that have the property, the second
closes it, and so on. `CodeSet.has` counts the changes up to a code point: it has the
property when their number is odd.
-/

namespace AqlClient

/-- A set of code points, as the code points at which membership changes. -/
abbrev CodeSet := List Nat

namespace CodeSet

/-- Whether a code point is inside, given the changes that are still ahead and whether the
code points before them are inside. -/
def insideFrom (n : Nat) : Bool → CodeSet → Bool
  | inside, [] => inside
  | inside, change :: rest => if n < change then inside else insideFrom n (!inside) rest

/-- Whether a character is in a set. -/
def has (s : CodeSet) (c : Char) : Bool := insideFrom c.toNat false s

end CodeSet

end AqlClient
