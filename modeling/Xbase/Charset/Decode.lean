import Xbase.Charset.Basic
import Xbase.Charset.Big5
import Xbase.Charset.EucJp
import Xbase.Charset.EucKr
import Xbase.Charset.Gb18030
import Xbase.Charset.Iso2022Jp
import Xbase.Charset.ShiftJis
import Xbase.Charset.Utf8
/-!
# Decoding

The text of bytes in any character set. A byte order mark is a character like any other.
-/
namespace Xbase.Charset

/-- The symbol of a byte in the character set whose upper half is for private use. -/
def userDefinedSymbol (b : UInt8) : Symbol :=
  some (if isAscii b then asciiChar b else Char.ofNat (0xF780 + (b.toNat - 0x80)))

def symbols : Charset → List UInt8 → List Symbol
  | .utf8, bytes => Utf8.decoder.run bytes
  | .page p, bytes => bytes.map p.symbol
  | .logicalHebrew, bytes => bytes.map CodePage.iso8859_8.symbol
  | .gbk, bytes => Gb18030.decoder.run bytes
  | .gb18030, bytes => Gb18030.decoder.run bytes
  | .big5, bytes => Big5.decoder.run bytes
  | .eucJp, bytes => EucJp.decoder.run bytes
  | .iso2022Jp, bytes => Iso2022Jp.decoder.run bytes
  | .shiftJis, bytes => ShiftJis.decoder.run bytes
  | .eucKr, bytes => EucKr.decoder.run bytes
  | .replacement, bytes => if bytes.isEmpty then [] else [none]
  | .utf16 order, bytes => (Utf16.decoder order).run bytes
  | .userDefined, bytes => bytes.map userDefinedSymbol

/-- The text of symbols, with a replacement character for each malformed sequence. -/
def symbolText (symbols : List Symbol) : List Char := symbols.map (·.getD replacementChar)

def decode (charset : Charset) (bytes : List UInt8) : List Char := symbolText (charset.symbols bytes)

end Xbase.Charset
