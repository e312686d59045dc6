/-!
# Powers of two and of ten

The natural powers of the two bases that binary and decimal numbers are written in.
-/
namespace Xbase.Number

def pow2 (n : Nat) : Nat := Nat.pow 2 n

def pow10 (n : Nat) : Nat := Nat.pow 10 n

end Xbase.Number
