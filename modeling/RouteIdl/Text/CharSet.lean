/-!
# Sets of characters

A set of characters given by the ranges of code points it covers.
-/

namespace RouteIdl.Text

/-- A set of characters, as inclusive ranges of code points. -/
structure CharSet where
  /-- The first and last code point of each range. -/
  ranges : List (Nat × Nat)

namespace CharSet

/-- Whether a character lies in one of the ranges. -/
def contains (set : CharSet) (c : Char) : Bool :=
  set.ranges.any fun range => range.1 ≤ c.toNat && c.toNat ≤ range.2

end CharSet

end RouteIdl.Text
