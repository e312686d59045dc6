import Xbase.Table.Descriptor
import Xbase.Table.Record
/-!
# Laying out tables

The bytes of a table: the fixed block, a descriptor for each field, the terminator, the records, and a mark
for the end of the file. A value is padded with blanks to the width of its field, numbers in front and all
else behind.
-/
namespace Xbase.Table

structure FieldLayout where
  name : List UInt8
  code : UInt8
  length : UInt8
  decimals : UInt8
deriving DecidableEq, Repr

structure RecordLayout where
  deleted : Bool
  values : List (List UInt8)
deriving DecidableEq, Repr

/-- A table to be laid out. The last update is the years since 1900, the month and the day. -/
structure Layout where
  version : UInt8
  updated : UInt8 × UInt8 × UInt8
  languageDriver : UInt8
  fields : List FieldLayout
  records : List RecordLayout
deriving DecidableEq, Repr

/-- The lowest bytes of a number, the low byte first. -/
def littleEndianBytes : Nat → Nat → List UInt8
  | 0, _ => []
  | count + 1, n => UInt8.ofNat n :: littleEndianBytes count (n / 256)

def padEnd (width : Nat) (fill : UInt8) (bytes : List UInt8) : List UInt8 :=
  bytes ++ List.replicate (width - bytes.length) fill

def padStart (width : Nat) (fill : UInt8) (bytes : List UInt8) : List UInt8 :=
  List.replicate (width - bytes.length) fill ++ bytes

namespace FieldLayout

def bytes (f : FieldLayout) : List UInt8 :=
  padEnd descriptorSize 0
    (padEnd maxNameLength 0 f.name ++ [f.code, 0, 0, 0, 0, f.length, f.decimals])

/-- The bytes of a value in the field, as many as there is room for. Numbers stand at the end. -/
def pad (f : FieldLayout) (value : List UInt8) : List UInt8 :=
  let value := value.take f.length.toNat
  if f.code = 0x4E ∨ f.code = 0x46 then padStart f.length.toNat 0x20 value
  else padEnd f.length.toNat 0x20 value

end FieldLayout

def RecordLayout.bytes (fields : List FieldLayout) (r : RecordLayout) : List UInt8 :=
  (if r.deleted then deletedFlag else 0x20) :: (List.zipWith FieldLayout.pad fields r.values).flatten

namespace Layout

def headerLength (t : Layout) : Nat := fixedLength + descriptorSize * t.fields.length + 1

def recordLength (t : Layout) : Nat := t.fields.foldl (fun n f => n + f.length.toNat) 1

def fixedBlock (t : Layout) : List UInt8 :=
  padEnd 29 0
    ([t.version, t.updated.1, t.updated.2.1, t.updated.2.2] ++ littleEndianBytes 4 t.records.length ++
      littleEndianBytes 2 t.headerLength ++ littleEndianBytes 2 t.recordLength) ++
    [t.languageDriver, 0, 0]

/-- The mark for the end of a file. -/
def endMark : UInt8 := 0x1A

def bytes (t : Layout) : List UInt8 :=
  t.fixedBlock ++ t.fields.flatMap FieldLayout.bytes ++ [terminator] ++
    t.records.flatMap (RecordLayout.bytes t.fields) ++ [endMark]

end Layout

end Xbase.Table
