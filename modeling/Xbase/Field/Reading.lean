import Xbase.Date
import Xbase.Error
import Xbase.Number.Decimal
import Xbase.Number.Reading
import Xbase.Text.Blank
/-!
# Reading the text of a field

Numbers, dates and truth values as tables write them. Blanks around a number or a truth value do not count,
a date has none. A text that is no value of the kind asked for is an error that names the column and
carries the whole text.
-/
namespace Xbase

open Number (Binary Decimal DecimalArithmetic Format IntWidth)

/-- The text of a date that was never set. -/
def nullStamp : List Char := List.replicate 8 '0'

def logicalOfText? (s : List Char) : Option Bool :=
  match Text.trim s with
  | ['T'] => some true
  | ['t'] => some true
  | ['Y'] => some true
  | ['y'] => some true
  | ['F'] => some false
  | ['f'] => some false
  | ['N'] => some false
  | ['n'] => some false
  | _ => none

namespace Field

def notNumeric (f : Field) (s : List Char) : Error := .notNumeric f.name f.type (String.ofList s)

def notDate (f : Field) (s : List Char) : Error := .notDate f.name f.type (String.ofList s)

/-- Reads a number with a given reader after the blanks around it are removed. -/
def number {α : Type} (f : Field) (ofText? : List Char → Option α) (s : List Char) : Except Error α :=
  match ofText? (Text.trim s) with
  | some x => .ok x
  | none => .error (f.notNumeric s)

def integer (f : Field) (w : IntWidth) (s : List Char) : Except Error Int := f.number w.ofText? s

def float (f : Field) (format : Format) (s : List Char) : Except Error (Binary format) :=
  f.number Binary.ofText? s

/-- The decimal of a floating-point number with at most the given number of places, a half rounded to even. -/
def decimal [DecimalArithmetic] (f : Field) (x : Number.Binary64) (places : Nat) : Except Error Decimal :=
  match DecimalArithmetic.ofBinary? x with
  | some d => .ok (DecimalArithmetic.round .nearestEven d places)
  | none => .error (f.notNumeric x.text)

/-- Reads a date; the date that was never set is none. -/
def date (f : Field) (s : List Char) : Except Error (Option Date) :=
  if s = nullStamp then .ok none
  else match Date.ofStamp? s with
    | some d => .ok (some d)
    | none => .error (f.notDate s)

end Field

end Xbase
