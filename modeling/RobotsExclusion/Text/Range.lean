/-!
# Ranges of character codes

A property of characters is kept as the list of the code ranges that have it, both ends included.
-/

namespace RobotsExclusion

abbrev CodeRanges := List (Nat × Nat)

def CodeRanges.has (rs : CodeRanges) (c : Char) : Bool :=
  rs.any fun (first, last) => first.ble c.toNat && c.toNat.ble last

end RobotsExclusion
