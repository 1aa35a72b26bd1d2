/-!
# Ranges of code points

A class of characters is given as a table of inclusive ranges of code points
in ascending order.
-/

namespace LineCalculator

/-- A table of inclusive ranges. -/
abbrev Ranges := List (Nat × Nat)

def Ranges.contains (ranges : Ranges) (character : Char) : Bool :=
  ranges.any fun range =>
    range.1 ≤ character.toNat && character.toNat ≤ range.2

end LineCalculator
