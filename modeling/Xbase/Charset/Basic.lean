import Xbase.Charset.CodePage
import Xbase.Charset.Utf16
/-!
# Character sets

The character sets a table can declare, with their names. Every single-byte code page is one; the logical
order of Hebrew shares its characters with the visual order.
-/
namespace Xbase

open Charset (CodePage)
open Charset.Utf16 (ByteOrder)

inductive Charset where
  | utf8
  | page (page : CodePage)
  | logicalHebrew
  | gbk
  | gb18030
  | big5
  | eucJp
  | iso2022Jp
  | shiftJis
  | eucKr
  | replacement
  | utf16 (order : ByteOrder)
  | userDefined
deriving DecidableEq, Repr

def Charset.name : Charset → String
  | .page p => p.name
  | .utf8 => "UTF-8"
  | .logicalHebrew => "ISO-8859-8-I"
  | .gbk => "GBK"
  | .gb18030 => "gb18030"
  | .big5 => "Big5"
  | .eucJp => "EUC-JP"
  | .iso2022Jp => "ISO-2022-JP"
  | .shiftJis => "Shift_JIS"
  | .eucKr => "EUC-KR"
  | .replacement => "replacement"
  | .utf16 .bigEndian => "UTF-16BE"
  | .utf16 .littleEndian => "UTF-16LE"
  | .userDefined => "x-user-defined"

end Xbase
