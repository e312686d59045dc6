import Xbase.Charset.Selection
import Xbase.Source
import Xbase.Table.Descriptor
import Xbase.Table.Record
/-!
# Reading tables

A reader takes the bytes of a table file apart: the header when it is made, then one record at a time in
the order of the file. `rest` is what has not been read; a record that is not completely there takes all of
it, so that every later read fails in the same way until the reader is set back.
-/
namespace Xbase.Table

/-- A reader of a table. `body` is what stands from the first record on, and `rest` what of it has not been read.
`deleted` is about the record read last. -/
structure Reader where
  header : Header
  schema : Schema
  origin : Charset.Origin
  identity : String
  body : List UInt8
  rest : List UInt8
  rowNumber : Nat
  deleted : Bool
deriving DecidableEq, Repr

namespace Reader

/-- What a reader is told about a table besides its bytes: its name, its name in messages, the character set that the
caller chooses and the content of the code page file. -/
structure Naming where
  table : String
  identity : String
  explicit : Option Charset
  codePageFile : Option (List Char)
deriving DecidableEq, Repr

def decode (naming : Naming) (bytes : List UInt8) : Except FormatFault Reader := do
  if bytes.length < fixedLength then throw .truncatedHeader
  let header ← Header.decode (bytes.take fixedLength)
  if bytes.length < header.headerLength then throw .truncatedHeader
  let (charset, origin) :=
    Charset.resolve naming.explicit naming.codePageFile header.languageDriver
  let area := (bytes.drop fixedLength).take header.descriptorLength
  let fields ← decodeDescriptors charset header.recordLength area
  let body := bytes.drop header.headerLength
  return ⟨header, ⟨naming.table, fields, charset⟩, origin, naming.identity, body, body, 0, false⟩

def ofBytes (naming : Naming) (bytes : List UInt8) : Except Error Reader :=
  match decode naming bytes with
  | .ok reader => .ok reader
  | .error fault => .error (.invalidFormat naming.identity fault)

/-- Makes a reader of bytes that come from no file. -/
def ofMemory (table : String) (explicit : Option Charset) (bytes : List UInt8) : Except Error Reader :=
  ofBytes ⟨table, table, explicit, none⟩ bytes

def read (r : Reader) : Except Error Row × Reader :=
  if r.header.recordCount ≤ r.rowNumber then (.error (.noResult "" r.identity), r)
  else if r.rest.length < r.header.recordLength then
    (.error (.invalidFormat r.identity (.truncatedRecord (r.rowNumber + 1) r.header.recordCount)),
      { r with rest := [] })
  else
    let record := r.rest.take r.header.recordLength
    (.ok (.ofValues r.schema (recordValues r.schema.fields record)),
      { r with
        rest := r.rest.drop r.header.recordLength
        rowNumber := r.rowNumber + 1
        deleted := isDeletedRecord record })

def reset (r : Reader) : Reader := { r with rest := r.body, rowNumber := 0, deleted := false }

end Reader

instance : RowSource Reader where
  schema r := r.schema
  identity r := r.identity
  rowCount r := r.header.recordCount
  rowNumber r := r.rowNumber
  read := Reader.read

end Xbase.Table
