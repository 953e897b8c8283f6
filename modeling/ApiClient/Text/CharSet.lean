/-!
# Sets of characters

A set of characters is given by the closed ranges of its code points.
-/

namespace ApiClient.Text

structure CharSet where
  ranges : List (Nat × Nat)

def CharSet.contains (s : CharSet) (c : Char) : Bool :=
  s.ranges.any fun r => r.1 ≤ c.toNat && c.toNat ≤ r.2

end ApiClient.Text
