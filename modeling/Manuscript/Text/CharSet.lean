/-!
Sets of characters, written as the code points at which membership changes. A set that starts
with `65, 91` holds the capital letters `A` to `Z` and nothing below them.
-/

namespace Manuscript.Text

/-- A set of characters: the ascending code points at which membership changes. -/
structure CharSet where
  bounds : List Nat

namespace CharSet

/-- Walks along the boundaries up to the code point, switching membership at each. -/
def flips (n : Nat) : List Nat → Bool → Bool
  | [], inside => inside
  | b :: bs, inside => if n < b then inside else flips n bs (!inside)

def contains (s : CharSet) (c : Char) : Bool := flips c.toNat s.bounds false

end CharSet

end Manuscript.Text
