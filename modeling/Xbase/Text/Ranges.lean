/-!
# Sets of characters as ranges

A property of characters is given by the closed ranges of code points that have it.
-/
namespace Xbase.Text

/-- Closed ranges of code points, in ascending order and apart. -/
abbrev Ranges := List (Nat × Nat)

/-- Whether a range holds the code point. The ranges ascend, so the search ends at the first one that
starts above it. -/
def Ranges.has : Ranges → Nat → Bool
  | [], _ => false
  | (first, last) :: rest, n => first ≤ n && (n ≤ last || Ranges.has rest n)

end Xbase.Text
