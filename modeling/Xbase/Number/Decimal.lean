import Xbase.Number.Binary
import Xbase.Number.Notation
/-!
# Decimals

A decimal is a coefficient, a scale and a sign. Which decimal a binary value has, and what rounding makes of a decimal
that has too many places, is left to an arithmetic of decimals. It rounds by the strategy that it is given.
-/
namespace Xbase.Number

/-- The decimal `± coefficient / 10 ^ scale`. -/
structure Decimal where
  negative : Bool
  coefficient : Nat
  scale : Nat
deriving DecidableEq, Repr

/-- Where rounding goes from a decimal that lies between two neighbours of fewer places. The first three go to the one
that is nearer, and differ in the middle. -/
inductive Rounding where
  | nearestEven
  | nearestAwayFromZero
  | nearestTowardZero
  | towardZero
  | awayFromZero
  | downward
  | upward
deriving DecidableEq, Repr

/-- The operations of an arithmetic of decimals. -/
class DecimalArithmetic where
  ofBinary? : Binary64 → Option Decimal
  round : Rounding → Decimal → Nat → Decimal

namespace Decimal

/-- A decimal cut behind a number of places: how many units of the last place it has, and what is left over, as a part
of one more unit. -/
structure Cut where
  negative : Bool
  whole : Nat
  rest : Nat
  unit : Nat

def cut (d : Decimal) (places : Nat) : Cut :=
  let unit := pow10 (d.scale - places)
  ⟨d.negative, d.coefficient / unit, d.coefficient % unit, unit⟩

/-- The text of a decimal, with exactly as many places as its scale. -/
def text (d : Decimal) : List Char :=
  let magnitude := placesText d.coefficient d.scale
  if d.negative then '-' :: magnitude else magnitude

end Decimal

end Xbase.Number
