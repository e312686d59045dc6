import Xbase.Charset.Decode
import Xbase.Field.Basic
import Xbase.Table.Header
import Xbase.Text.Blank
/-!
# Field descriptors

After the fixed block comes a descriptor of 32 bytes for each field, and a terminator. Whatever follows the
terminator is not read. The widths of the fields and the deletion flag make up a record.
-/
namespace Xbase.Table

def descriptorSize : Nat := 32

/-- The byte that ends the descriptors. -/
def terminator : UInt8 := 0x0D

def maxNameLength : Nat := 11

/-- The name in a descriptor, up to its first NUL. -/
def descriptorName (charset : Charset) (block : List UInt8) : List Char :=
  Text.trim (charset.decode ((block.take maxNameLength).takeWhile (· ≠ 0)))

/-- The field that a descriptor declares, if it has a name. -/
def descriptorField? (charset : Charset) (block : List UInt8) : Option Field :=
  match descriptorName charset block with
  | [] => none
  | name => some
    { name := String.ofList name
      type := .ofCode (byteAt block 11)
      length := byteAt block 16
      decimals := byteAt block 17 }

/-- The fields of the descriptors up to the terminator. `position` counts the fields from 1 on. -/
def descriptorFields (charset : Charset) (position : Nat) (bytes : List UInt8) :
    Except FormatFault (List Field) :=
  match bytes with
  | [] => .error .unterminatedDescriptors
  | b :: rest =>
    if b = terminator then .ok []
    else if rest.length + 1 < descriptorSize then .error .unterminatedDescriptors
    else match descriptorField? charset ((b :: rest).take descriptorSize) with
      | none => .error (.unnamedField position)
      | some field =>
        match descriptorFields charset (position + 1) (rest.drop (descriptorSize - 1)) with
        | .ok fields => .ok (field :: fields)
        | .error fault => .error fault
termination_by bytes.length
decreasing_by
  simp only [List.length_drop, List.length_cons]
  omega

def fieldBytes : List Field → Nat
  | [] => 0
  | field :: fields => field.length.toNat + fieldBytes fields

/-- The number of bytes of a record with the given fields. -/
def neededLength (fields : List Field) : Nat := 1 + fieldBytes fields

/-- Decodes the descriptors of a table whose records have the given length. -/
def decodeDescriptors (charset : Charset) (recordLength : Nat) (bytes : List UInt8) :
    Except FormatFault (List Field) :=
  match descriptorFields charset 1 bytes with
  | .error fault => .error fault
  | .ok fields =>
    if fields = [] then .error .noFields
    else if neededLength fields ≠ recordLength then
      .error (.recordLengthMismatch (neededLength fields) recordLength)
    else .ok fields

end Xbase.Table
