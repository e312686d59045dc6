import Xbase.Number.Binary
/-!
# Reading numbers

The grammar of integers and of floating-point numbers in text. Digits are ASCII digits, and no blank may
stand anywhere.
-/
namespace Xbase.Number

/-- Takes one sign off the front; no sign is a plus sign. -/
def splitSign : List Char → Bool × List Char
  | '-' :: s => (true, s)
  | '+' :: s => (false, s)
  | s => (false, s)

def natOfText? (s : List Char) : Option Nat :=
  if s ≠ [] ∧ s.all Char.isDigit then some (Nat.ofDigitChars 10 s 0) else none

/-- The value of a text of at most one sign and one or more digits. -/
def intOfText? (s : List Char) : Option Int :=
  match splitSign s with
  | (negative, digits) => (natOfText? digits).map fun n => if negative then -(n : Int) else n

/-- The widths of the integers that a column can be read as. -/
inductive IntWidth where
  | w16
  | w32
  | w64
deriving DecidableEq, Repr

def IntWidth.bits : IntWidth → Nat
  | .w16 => 16
  | .w32 => 32
  | .w64 => 64

def IntWidth.Holds (w : IntWidth) (n : Int) : Prop :=
  -(pow2 (w.bits - 1) : Int) ≤ n ∧ n < (pow2 (w.bits - 1) : Int)

instance (w : IntWidth) (n : Int) : Decidable (w.Holds n) :=
  inferInstanceAs (Decidable (_ ∧ _))

def IntWidth.ofText? (w : IntWidth) (s : List Char) : Option Int :=
  (intOfText? s).filter fun n => decide (w.Holds n)

/-- Reads the exponent of a number: nothing, or the letter e, at most one sign and one or more digits. -/
def exponentOfText? : List Char → Option Int
  | [] => some 0
  | c :: s => if c = 'e' ∨ c = 'E' then intOfText? s else none

/-- The names that stand for values which no decimal denotes, in any letter case. -/
def namedValue? {f : Format} (negative : Bool) (s : List Char) : Option (Binary f) :=
  match String.ofList (s.map Char.toLower) with
  | "inf" => some (.infinite negative)
  | "infinity" => some (.infinite negative)
  | "nan" => some .nan
  | _ => none

/-- Reads a floating-point number: at most one sign, then a name, or digits with at most one point among
them and an optional exponent. The value is the decimal rounded once. -/
def Binary.ofText? {f : Format} (s : List Char) : Option (Binary f) :=
  let (negative, s) := splitSign s
  match namedValue? negative s with
  | some x => some x
  | none =>
    let (whole, rest) := s.span Char.isDigit
    let (places, rest) := match rest with
      | '.' :: rest => rest.span Char.isDigit
      | rest => ([], rest)
    if whole = [] ∧ places = [] then none
    else (exponentOfText? rest).map fun e =>
      .ofDecimal negative (Nat.ofDigitChars 10 (whole ++ places) 0) (e - places.length)

end Xbase.Number
