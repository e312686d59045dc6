/-!
# Rounding a quotient

Nearest integer to a quotient of naturals, a half going to the even neighbour, as the binary formats round.
-/
namespace Xbase.Number

/-- The integer nearest to `num / den`; of two that are equally near, the even one. -/
def halfEven (num den : Nat) : Nat :=
  let q := num / den
  let r := num % den
  if 2 * r < den then q
  else if den < 2 * r then q + 1
  else if q % 2 = 0 then q else q + 1

end Xbase.Number
