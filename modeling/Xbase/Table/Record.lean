import Xbase.Field.Basic
import Xbase.Row
import Xbase.Text.Blank
/-!
# Records

A record is a deletion flag and then the bytes of each field, one after the other without anything between
them. The bytes of a field are its value in padding. Text keeps blanks in front and loses padding behind;
any other value stands without padding on either side, and is absent if nothing else is there.
-/
namespace Xbase.Table

def deletedFlag : UInt8 := 0x2A

/-- A byte that fills up a field. -/
def isPadding (b : UInt8) : Bool := b = 0x20 || b = 0

def trimEnd (bytes : List UInt8) : List UInt8 := (bytes.reverse.dropWhile isPadding).reverse

/-- The value of a field's bytes. Text is absent if it was never written, which leaves nothing but NULs,
and a truth value if it is a question mark. -/
def fieldValue (type : FieldType) (bytes : List UInt8) : Value :=
  match type with
  | .character => if bytes.all (· = 0) then none else some (trimEnd bytes)
  | _ =>
    let value := Text.trimBoth isPadding bytes
    if value = [] ∨ (type = .logical ∧ value = [0x3F]) then none else some value

/-- The bytes of each field, given those after the deletion flag. -/
def fieldSlices : List Field → List UInt8 → List (List UInt8)
  | [], _ => []
  | field :: fields, bytes =>
    bytes.take field.length.toNat :: fieldSlices fields (bytes.drop field.length.toNat)

def recordValues (fields : List Field) (record : List UInt8) : List Value :=
  List.zipWith (fun field bytes => fieldValue field.type bytes) fields (fieldSlices fields record.tail)

def isDeletedRecord (record : List UInt8) : Bool := record.head? = some deletedFlag

end Xbase.Table
