import Xbase.Charset.Decoder
/-!
# Looking up an index

An index of a double-byte character set is a list of rows of characters, in which U+FFFD marks a place
without a character. Places beyond the end of a row or of the list have none either.
-/
namespace Xbase.Charset

def indexSymbol (rows : List String) (row column : Nat) : Symbol :=
  (rows[row]?.bind fun r => r.toList[column]?).filter (· ≠ replacementChar)

/-- The half-width katakana of a byte from A1 to DF. -/
def halfWidthKatakana (b : UInt8) : Char := Char.ofNat (0xFF61 + (b.toNat - 0xA1))

/-- The symbols of a pair of bytes: its character if it has one, else a malformed sequence whose second
byte is read again if it is ASCII. -/
def pairSymbols (symbol : Symbol) (second : UInt8) : List Symbol :=
  if symbol.isSome then [symbol] else malformed second

/-- The end of the input, which makes an unfinished sequence malformed. -/
def finishPending {α : Type} (pending : Option α) : List Symbol :=
  if pending.isSome then [none] else []

end Xbase.Charset
