import Xbase.Number.Power
import Xbase.Number.Rounding
/-!
# Binary floating-point values

Values of the binary interchange formats, as a sign and a magnitude. The magnitude is the pattern of
exponent and fraction read as a natural number: it grows with the absolute value, the pattern of
infinity bounds the finite values, and what lies above it is no number.

Conversions are exact first and rounded once, to nearest with ties to even. The order of two values is
the order of their keys, so positive and negative zero are equal and a value that is no number has no
order.
-/
namespace Xbase.Number

/-- A binary interchange format, by the widths of its exponent and its fraction. -/
structure Format where
  exponentBits : Nat
  fractionBits : Nat
deriving DecidableEq, Repr

namespace Format

def single : Format := ⟨8, 23⟩

def double : Format := ⟨11, 52⟩

/-- The width of a pattern without its sign. -/
def magnitudeBits (f : Format) : Nat := f.exponentBits + f.fractionBits

/-- The exponent of the smallest unit: every finite value is a multiple of two to this power. -/
def minExponent (f : Format) : Int := 2 - (pow2 (f.exponentBits - 1) : Int) - f.fractionBits

def infinity (f : Format) : Nat := (pow2 f.exponentBits - 1) * pow2 f.fractionBits

end Format

/-- A value of a binary format. The magnitude is the exponent field and the fraction field as one number. -/
structure Binary (f : Format) where
  negative : Bool
  magnitude : Nat
deriving DecidableEq, Repr

abbrev Binary32 := Binary .single

abbrev Binary64 := Binary .double

namespace Binary

variable {f : Format}

def ofBits (f : Format) (bits : Nat) : Binary f :=
  ⟨bits / pow2 f.magnitudeBits % 2 == 1, bits % pow2 f.magnitudeBits⟩

def toBits (x : Binary f) : Nat :=
  (if x.negative then pow2 f.magnitudeBits else 0) + x.magnitude

def zero (negative : Bool) : Binary f := ⟨negative, 0⟩

def infinite (negative : Bool) : Binary f := ⟨negative, f.infinity⟩

def nan : Binary f := ⟨false, f.infinity + 1⟩

def isNaN (x : Binary f) : Bool := f.infinity < x.magnitude

/-- Whether the value is a number other than the infinities. -/
def isFinite (x : Binary f) : Bool := x.magnitude < f.infinity

def exponentField (x : Binary f) : Nat := x.magnitude / pow2 f.fractionBits

/-- The significand: the fraction field, with the leading bit of all but the smallest values. -/
def significand (x : Binary f) : Nat :=
  if x.exponentField = 0 then x.magnitude else pow2 f.fractionBits + x.magnitude % pow2 f.fractionBits

/-- The exponent of the unit: a finite value is its significand times two to this power. -/
def exponent (x : Binary f) : Int := f.minExponent + (x.exponentField - 1 : Nat)

/-- The place of a value in the order of all values that are numbers. -/
def key (x : Binary f) : Int := if x.negative then -(x.magnitude : Int) else x.magnitude

/-- The order of two values, if both are numbers. -/
def order? (x y : Binary f) : Option Ordering :=
  if x.isNaN || y.isNaN then none else some (compare x.key y.key)

/-- The quotient `num / den / 2 ^ e` as numerator and denominator. -/
def scaled (num den : Nat) (e : Int) : Nat × Nat := (num * pow2 (-e).toNat, den * pow2 e.toNat)

/-- The exponent of the greatest power of two that is at most `num / den`, for positive naturals. -/
def binaryLog (num den : Nat) : Int :=
  let e : Int := num.log2 - den.log2
  let (a, b) := scaled num den e
  if a < b then e - 1 else e

/-- The value nearest to `num / den` with the given sign; a half goes to the even significand, and what
rounds beyond the finite values is infinite. -/
def ofRatio (negative : Bool) (num den : Nat) : Binary f :=
  if num = 0 then zero negative
  else
    let e := max (binaryLog num den - f.fractionBits) f.minExponent
    let (a, b) := scaled num den e
    let magnitude := (e - f.minExponent).toNat * pow2 f.fractionBits + halfEven a b
    ⟨negative, min magnitude f.infinity⟩

def ofInt (n : Int) : Binary f := ofRatio (n < 0) n.natAbs 1

/-- A power of ten beyond which, on either side, every decimal rounds to infinity or to zero. -/
def decimalLimit (f : Format) : Nat := pow2 f.exponentBits + f.fractionBits

/-- The value nearest to `digits * 10 ^ exponent` with the given sign. -/
def ofDecimal (negative : Bool) (digits : Nat) (exponent : Int) : Binary f :=
  let magnitude : Int := (Nat.toDigits 10 digits).length + exponent
  if digits = 0 then zero negative
  else if magnitude < -(decimalLimit f : Int) then zero negative
  else if decimalLimit f + 1 < magnitude then infinite negative
  else ofRatio negative (digits * pow10 exponent.toNat) (pow10 (-exponent).toNat)

end Binary

end Xbase.Number
