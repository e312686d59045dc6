/-!
# Fields

A field is a column as a table declares it: a name, a type given by a code letter, a width in bytes and a
number of decimal places.
-/
namespace Xbase

inductive FieldType where
  | character
  | numeric
  | float
  | date
  | logical
  | memo
  | other (code : UInt8)
deriving DecidableEq, Repr

namespace FieldType

def upperCode (code : UInt8) : UInt8 := if 0x61 ≤ code ∧ code ≤ 0x7A then code - 0x20 else code

/-- The type of a code, in either case of its letter. -/
def ofCode (code : UInt8) : FieldType :=
  match Char.ofNat (upperCode code).toNat with
  | 'C' => .character
  | 'N' => .numeric
  | 'F' => .float
  | 'D' => .date
  | 'L' => .logical
  | 'M' => .memo
  | _ => .other (upperCode code)

def code : FieldType → UInt8
  | .character => 0x43
  | .numeric => 0x4E
  | .float => 0x46
  | .date => 0x44
  | .logical => 0x4C
  | .memo => 0x4D
  | .other code => code

def letter (t : FieldType) : Char := Char.ofNat t.code.toNat

def text (t : FieldType) : String := String.singleton t.letter

def isNumeric : FieldType → Bool
  | .numeric => true
  | .float => true
  | _ => false

/-- The name of a type in the description of a result. -/
def typeName : FieldType → String
  | .character => "CHAR"
  | .numeric => "NUMERIC"
  | .float => "FLOAT"
  | .date => "DATE"
  | .logical => "BOOLEAN"
  | .memo => "MEMO"
  | .other _ => "OTHER"

end FieldType

/-- A column as its table declares it. -/
structure Field where
  name : String
  type : FieldType
  length : UInt8
  decimals : UInt8
deriving DecidableEq, Repr

namespace Field

/-- The number of characters or digits a value has at most. -/
def precision (f : Field) : Nat := f.length.toNat

def scale (f : Field) : Nat := f.decimals.toNat

/-- The number of characters that show a value. -/
def displaySize (f : Field) : Nat := f.precision

def isSigned (f : Field) : Bool := f.type.isNumeric

end Field

end Xbase
