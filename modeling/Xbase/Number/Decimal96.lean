import Xbase.Number.Decimal
/-!
# Decimals of 96 bits

An arithmetic of decimals whose coefficients have 96 bits. Binary values become decimals by a conversion that works on
such a coefficient: powers of two are traded for powers of ten as long as it has room, then the result is cut to 28
places and to the digits that a binary value of 53 bits supports. Rounding to fewer places is exact.
-/
namespace Xbase.Number

/-- Whether rounding goes to the neighbour that is further from zero. -/
def Rounding.isAway : Rounding → Decimal.Cut → Bool
  | .nearestEven, c => c.unit < 2 * c.rest || (2 * c.rest = c.unit && c.whole % 2 = 1)
  | .nearestAwayFromZero, c => c.unit ≤ 2 * c.rest
  | .nearestTowardZero, c => c.unit < 2 * c.rest
  | .towardZero, _ => false
  | .awayFromZero, c => 0 < c.rest
  | .downward, c => c.negative && 0 < c.rest
  | .upward, c => !c.negative && 0 < c.rest

namespace Decimal

def coefficientBound : Nat := pow2 96

/-- The greatest scale of a decimal made from a binary value. -/
def maxScale : Nat := 28

/-- A coefficient with a power of ten. -/
abbrev Scaled := Nat × Int

/-- Takes `halvings` factors of one half into the coefficient: an even coefficient is halved, an odd one
multiplied by five for a lower power of ten, or halved with a loss where it has no room. -/
def takeHalvings : Nat → Scaled → Scaled
  | 0, s => s
  | halvings + 1, (m, e) =>
    if m % 2 = 0 then takeHalvings halvings (m / 2, e + 1)
    else if 5 * m < coefficientBound then takeHalvings halvings (5 * m, e)
    else takeHalvings halvings (m / 2, e + 1)

/-- Takes `doublings` factors of two into the coefficient, by doubling while there is room and by dividing
by five for a higher power of ten where there is none. The power may grow only while it stays at most half
of what is left to take in. -/
def takeDoublings : Nat → Scaled → Option Scaled
  | 0, s => some s
  | doublings + 1, (m, e) =>
    if m < coefficientBound / 2 then takeDoublings doublings (2 * m, e - 1)
    else if 2 * e > doublings + 1 then none
    else takeDoublings doublings (m / 5, e)

/-- Multiplies a positive power of ten into the coefficient, if there is room. -/
def takeTens : Nat → Nat → Option Nat
  | 0, m => some m
  | tens + 1, m => if 10 * m < coefficientBound then takeTens tens (10 * m) else none

/-- Divides by `10 ^ places`, one place at a time and each time to the nearest, a half going up. The
coefficient is zero once a division leaves nothing. -/
def cutPlaces : Nat → Nat → Nat
  | 0, m => m
  | places + 1, m =>
    if m / 10 = 0 then 0 else cutPlaces places (if 5 ≤ m % 10 then m / 10 + 1 else m / 10)

/-- Cuts places, each to the nearest, while the coefficient has more than 52 bits. -/
def cutExcess : Nat → Nat → Nat × Nat
  | 0, m => (m, 0)
  | scale + 1, m =>
    if pow2 52 ≤ m then cutExcess scale (if 5 ≤ m % 10 then m / 10 + 1 else m / 10) else (m, scale + 1)

def dropTrailing : Nat → Nat → Nat × Nat
  | 0, m => (m, 0)
  | scale + 1, m => if m % 10 = 0 then dropTrailing scale (m / 10) else (m, scale + 1)

/-- The scale and coefficient of a power of ten that is not positive. -/
def ofPlaces (negative : Bool) (m places : Nat) : Decimal :=
  let m' := cutPlaces (places - maxScale) m
  let scale := if maxScale < places ∧ m' = 0 then 0 else min places maxScale
  let (m', scale) := cutExcess scale m'
  let (m', scale) := dropTrailing scale m'
  ⟨negative, m', scale⟩

/-- The decimal of a binary value, if it is finite and not too large. -/
def ofBinary? (x : Binary64) : Option Decimal :=
  if !x.isFinite then none
  else if x.magnitude = 0 then some ⟨x.negative, 0, 0⟩
  else do
    let start := (x.significand, x.exponent)
    let (m, e) ← if x.exponent ≤ 0
      then some (takeHalvings (-x.exponent).toNat start)
      else takeDoublings x.exponent.toNat start
    if e ≤ 0 then some (ofPlaces x.negative m (-e).toNat)
    else return ⟨x.negative, ← takeTens e.toNat m, 0⟩

/-- The decimal with at most the given number of places. One that has no more is left as it is, and a rounded zero has
no sign. -/
def round (strategy : Rounding) (d : Decimal) (places : Nat) : Decimal :=
  if d.scale ≤ places then d
  else
    let c := d.cut places
    let m := if strategy.isAway c then c.whole + 1 else c.whole
    ⟨d.negative && m != 0, m, places⟩

end Decimal

instance decimal96 : DecimalArithmetic where
  ofBinary? := Decimal.ofBinary?
  round := Decimal.round

end Xbase.Number
