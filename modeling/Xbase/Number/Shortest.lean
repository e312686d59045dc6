import Xbase.Number.Binary
import Xbase.Number.Notation
/-!
# The shortest decimal that identifies a value

A finite value stands for an interval of reals: those that round to it. Its text is the decimal with the
fewest digits inside that interval; among several the nearest to the value, and the upper one on a tie.
It is written positionally, with a sign for negative values, zero included.
-/
namespace Xbase.Number

/-- The sign of `a * 10 ^ i - b * 2 ^ j`. -/
def compareScaled (a : Nat) (i : Int) (b : Nat) (j : Int) : Ordering :=
  compare (a * pow10 i.toNat * pow2 (-j).toNat) (b * pow2 j.toNat * pow10 (-i).toNat)

def digitCount (n : Nat) : Nat := (natText n).length

namespace Binary

variable {f : Format}

/-- Whether `digits * 10 ^ k` rounds to a finite, non-zero value. The interval ends halfway to the
neighbours, its ends belong to it if the significand is even, and just above a power of two the lower
neighbour is only half as far away. -/
def readsBack (x : Binary f) (digits : Nat) (k : Int) : Bool :=
  let m := x.significand
  let narrow := m = pow2 f.fractionBits && 1 < x.exponentField
  let lower := if narrow then 4 * m - 1 else 4 * m - 2
  let below := compareScaled digits k lower (x.exponent - 2)
  let above := compareScaled digits k (4 * m + 2) (x.exponent - 2)
  let ends := m % 2 = 0
  (below == .gt || (ends && below == .eq)) && (above == .lt || (ends && above == .eq))

/-- The greatest multiple of `10 ^ k` that is at most the absolute value, divided by `10 ^ k`. -/
def floorAt (x : Binary f) (k : Int) : Nat :=
  (x.significand * pow2 x.exponent.toNat * pow10 (-k).toNat) /
    (pow10 k.toNat * pow2 (-x.exponent).toNat)

/-- The multiple of `10 ^ k` that identifies the value, if there is one. -/
def candidate? (x : Binary f) (k : Int) : Option Nat :=
  let d := x.floorAt k
  match x.readsBack d k, x.readsBack (d + 1) k with
  | true, true =>
    if compareScaled (2 * d + 1) k (2 * x.significand) x.exponent = .gt then some d else some (d + 1)
  | true, false => some d
  | false, true => some (d + 1)
  | false, false => none

/-- The exponent of the least power of ten that is greater than a non-zero absolute value. -/
def decimalPoint (x : Binary f) : Int :=
  let num := x.significand * pow2 x.exponent.toNat
  let den := pow2 (-x.exponent).toNat
  if den ≤ num then digitCount (num / den) else 1 - (digitCount ((den - 1) / num) : Int)

/-- The first power of ten, from `10 ^ k` downwards, on whose multiples a candidate lies. A value is a
multiple of the power at which the search ends. -/
def searchFrom (x : Binary f) : Nat → Int → Nat × Int
  | 0, k => (x.floorAt k, k)
  | steps + 1, k =>
    match x.candidate? k with
    | some digits => (digits, k)
    | none => x.searchFrom steps (k - 1)

/-- The fewest digits that identify a finite, non-zero value, and the power of ten they count. -/
def shortest (x : Binary f) : Nat × Int :=
  let k := x.decimalPoint - 1
  x.searchFrom (k - min x.exponent 0).toNat k

end Binary

/-- Moves trailing zeros of the digits into the exponent, up to the exponent zero. -/
def dropZeros (digits : Nat) : Nat → Nat × Nat
  | 0 => (digits, 0)
  | places + 1 => if digits % 10 = 0 then dropZeros (digits / 10) places else (digits, places + 1)

/-- The number `digits * 10 ^ k`, with as many places as it needs. -/
def decimalText (digits : Nat) (k : Int) : List Char :=
  if 0 ≤ k then placesText (digits * pow10 k.toNat) 0
  else
    let (digits, places) := dropZeros digits (-k).toNat
    placesText digits places

/-- The text of a value: its shortest decimal, or the name of a value that is none. -/
def Binary.text {f : Format} (x : Binary f) : List Char :=
  if x.isNaN then ['N', 'a', 'N']
  else
    let magnitude :=
      if x.magnitude = 0 then ['0']
      else if x.isFinite then decimalText x.shortest.1 x.shortest.2
      else ['i', 'n', 'f']
    if x.negative then '-' :: magnitude else magnitude

end Xbase.Number
