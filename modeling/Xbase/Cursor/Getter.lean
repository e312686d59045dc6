import Xbase.Charset.FieldText
import Xbase.Field.Reading
import Xbase.Row
/-!
# Getters

A getter reads a value as a text, a number or a date. Text and dates are read in the character set that
fits the bytes better, numbers in the one that the table declares. A null is a value that is absent, and for
dates also the one that was never set; numbers other than decimals read as zero then.
-/
namespace Xbase

open Number (Binary Binary32 Binary64 Decimal DecimalArithmetic IntWidth)

/-- A way to read the value of a column. A decimal has the places that the column declares, or as many as are given. -/
inductive Getter where
  | text
  | integer (w : IntWidth)
  | single
  | double
  | decimal
  | decimalWith (places : Nat)
  | date
deriving DecidableEq, Repr

inductive Reading where
  | text (s : List Char)
  | integer (n : Int)
  | single (x : Binary32)
  | double (x : Binary64)
  | decimal (d : Decimal)
  | date (d : Date)
deriving DecidableEq, Repr

namespace Getter

/-- What a getter returns for a null: zero, if it reads numbers that have no null of their own. -/
def ofNull : Getter → Option Reading
  | .integer _ => some (.integer 0)
  | .single => some (.single (.zero false))
  | .double => some (.double (.zero false))
  | _ => none

/-- What a getter reads in the bytes of a column, and `none` if they stand for a null. -/
def interpret [DecimalArithmetic] (g : Getter) (charset : Charset) (field : Field) (bytes : List UInt8) :
    Except Error (Option Reading) :=
  match g with
  | .text => return some (.text (charset.fieldText bytes).text)
  | .integer w => return some (.integer (← field.integer w (charset.decode bytes)))
  | .single => return some (.single (← field.float .single (charset.decode bytes)))
  | .double => return some (.double (← field.float .double (charset.decode bytes)))
  | .decimal => return some (.decimal (← decimalOf field.scale))
  | .decimalWith places => return some (.decimal (← decimalOf places))
  | .date => return (← field.date (charset.fieldText bytes).text).map .date
where
  decimalOf (places : Nat) : Except Error Decimal := do
    field.decimal (← field.float .double (charset.decode bytes)) places

def read [DecimalArithmetic] (g : Getter) (charset : Charset) (field : Field) (value : Value) :
    Except Error (Option Reading) :=
  match value with
  | some bytes => g.interpret charset field bytes
  | none => .ok none

end Getter

end Xbase
