import Xbase.Charset.Labels
/-!
# The character set of a table

A character set is taken from the first of four places that names one: the caller, the code page file
beside the table, the language driver in the table's header, and a default.
-/
namespace Xbase.Charset

inductive Origin where
  | explicit
  | codePageFile
  | languageDriver
  | default
deriving DecidableEq, Repr

def ofLanguageDriver? (id : UInt8) : Option Charset :=
  if id = 0x03 ∨ id = 0x57 ∨ id = 0x58 ∨ id = 0x59 then some (.page .windows1252)
  else if id = 0x04 then some (.page .macintosh)
  else if id = 0x13 ∨ id = 0x7B then some .shiftJis
  else if id = 0x26 ∨ id = 0x65 then some (.page .ibm866)
  else if id = 0x4D ∨ id = 0x7A then some .gbk
  else if id = 0x4E ∨ id = 0x79 then some .eucKr
  else if id = 0x4F ∨ id = 0x78 then some .big5
  else if id = 0x50 ∨ id = 0x7C then some (.page .windows874)
  else if id = 0x7D then some (.page .windows1255)
  else if id = 0x7E then some (.page .windows1256)
  else if id = 0x96 then some (.page .macCyrillic)
  else if id = 0xC8 then some (.page .windows1250)
  else if id = 0xC9 then some (.page .windows1251)
  else if id = 0xCA then some (.page .windows1254)
  else if id = 0xCB then some (.page .windows1253)
  else if id = 0xCC then some (.page .windows1257)
  else none

/-- The character set of a code page number, given by its digits. Numbers from 1250 on name Windows code
pages, and the digits after 8859 a part of that standard. -/
def ofCodePageDigits? (digits : List Char) : Option Charset :=
  match String.ofList digits with
  | "65001" => some .utf8
  | "866" => some (.page .ibm866)
  | "874" => some (.page .windows874)
  | "932" => some .shiftJis
  | "936" => some .gbk
  | "949" => some .eucKr
  | "950" => some .big5
  | _ =>
    if digits.length = 4 ∧ digits.take 3 = ['1', '2', '5'] then
      ofLabel? ("windows-".toList ++ digits)
    else if 4 < digits.length ∧ digits.take 4 = ['8', '8', '5', '9'] then
      ofLabel? ("iso-8859-".toList ++ digits.drop 4)
    else none

/-- The character set that the content of a code page file names: a label, or any text whose digits make
up a code page number. -/
def ofCodePageLabel? (label : List Char) : Option Charset :=
  let label := Text.trim label
  if label = [] then none
  else match ofLabel? label with
    | some charset => some charset
    | none => ofCodePageDigits? (label.filter Char.isDigit)

def resolve (explicit : Option Charset) (codePageFile : Option (List Char)) (languageDriver : UInt8) :
    Charset × Origin :=
  match explicit, codePageFile.bind ofCodePageLabel?, ofLanguageDriver? languageDriver with
  | some charset, _, _ => (charset, .explicit)
  | none, some charset, _ => (charset, .codePageFile)
  | none, none, some charset => (charset, .languageDriver)
  | none, none, none => (.page .windows1252, .default)

end Xbase.Charset
