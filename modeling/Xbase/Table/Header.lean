import Xbase.Date
import Xbase.Table.FormatFault
/-!
# The fixed block of a header

The first 32 bytes of a table file: version, date of the last update, number of records, length of the
header, length of a record, and the language driver. Numbers have their low byte first.
-/
namespace Xbase.Table

def fixedLength : Nat := 32

/-- What the fixed block says. The two lengths are those of all that stands before the first record, and of a record
with its deletion flag. -/
structure Header where
  version : UInt8
  lastUpdate : Option Date
  recordCount : Nat
  headerLength : Nat
  recordLength : Nat
  languageDriver : UInt8
deriving DecidableEq, Repr

/-- A list of bytes as a number, the low byte first. -/
def littleEndian : List UInt8 → Nat
  | [] => 0
  | b :: rest => b.toNat + 256 * littleEndian rest

def slice (bytes : List UInt8) (offset count : Nat) : List UInt8 := (bytes.drop offset).take count

def byteAt (bytes : List UInt8) (offset : Nat) : UInt8 := bytes[offset]?.getD 0

namespace Header

def ofBytes (bytes : List UInt8) : Header where
  version := byteAt bytes 0
  lastUpdate :=
    Date.of? (1900 + (byteAt bytes 1).toNat) (byteAt bytes 2).toNat (byteAt bytes 3).toNat
  recordCount := littleEndian (slice bytes 4 4)
  headerLength := littleEndian (slice bytes 8 2)
  recordLength := littleEndian (slice bytes 10 2)
  languageDriver := byteAt bytes 29

/-- Decodes a fixed block. The header has room for a terminator, and a record for a flag and a field. -/
def decode (bytes : List UInt8) : Except FormatFault Header :=
  let header := ofBytes bytes
  if header.headerLength < fixedLength + 1 then .error (.shortHeaderLength header.headerLength)
  else if header.recordLength < 2 then .error (.shortRecordLength header.recordLength)
  else .ok header

/-- The number of bytes between the fixed block and the first record. -/
def descriptorLength (header : Header) : Nat := header.headerLength - fixedLength

end Header

end Xbase.Table
