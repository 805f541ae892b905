/-!
# Ranges — sets of characters as tables

A table lists a set of characters as ranges, each by its first and last member, in ascending order.
-/

namespace StubConsole

namespace Text

/-- The character is in one of the ranges. -/
def inRanges : List (Nat × Nat) → Char → Bool
  | [], _ => false
  | (first, last) :: rest, c =>
      if c.toNat < first then false else c.toNat ≤ last || inRanges rest c

end Text

end StubConsole
