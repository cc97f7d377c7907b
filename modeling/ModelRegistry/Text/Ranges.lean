/-!
# Sets of code points

A set of characters is given as the list of its ranges of code points, in order, so that a look-up
ends at the first range that reaches the code point.
-/

namespace ModelRegistry
namespace Text

/-- Ranges of code points, each from its first to its last, in order. -/
abbrev Ranges := List (Nat × Nat)

namespace Ranges

/-- Whether a code point lies in one of the ranges. -/
def covers (n : Nat) : Ranges → Bool
  | [] => false
  | (low, high) :: rest => if high < n then covers n rest else low ≤ n

end Ranges
end Text
end ModelRegistry
