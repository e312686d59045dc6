/-!
# Positional notation

Writing integers, and decimals with a given number of places, without an exponent.
-/
namespace Xbase.Number

def natText (n : Nat) : List Char := Nat.toDigits 10 n

def natString (n : Nat) : String := String.ofList (natText n)

/-- The digits of the absolute value, after a minus sign if the number is negative. -/
def intText (n : Int) : List Char :=
  if n < 0 then '-' :: natText n.natAbs else natText n.natAbs

/-- The number `digits / 10 ^ places` with exactly that many places, and no point if there are none. At
least one digit stands before the point. -/
def placesText (digits places : Nat) : List Char :=
  let ds := natText digits
  if places = 0 then ds
  else
    let ds := List.replicate (places + 1 - ds.length) '0' ++ ds
    ds.take (ds.length - places) ++ '.' :: ds.drop (ds.length - places)

end Xbase.Number
