import Xbase.Charset.Index.Big5
import Xbase.Charset.Index.Lookup
/-!
# Big5

ASCII and pairs of bytes, with the extension for Hong Kong. Four pairs stand for a letter and a combining
mark.
-/
namespace Xbase.Charset.Big5

def column? (b : UInt8) : Option Nat :=
  if within 0x40 0x7E b then some (b.toNat - 0x40)
  else if within 0xA1 0xFE b then some (b.toNat - 0x62)
  else none

/-- The letter and the mark of the pairs that stand for two characters. -/
def composed? (lead b : UInt8) : Option (Char × Char) :=
  match lead, b with
  | 0x88, 0x62 => some ('\u00CA', '\u0304')
  | 0x88, 0x64 => some ('\u00CA', '\u030C')
  | 0x88, 0xA3 => some ('\u00EA', '\u0304')
  | 0x88, 0xA5 => some ('\u00EA', '\u030C')
  | _, _ => none

def pair (lead b : UInt8) : List Symbol :=
  match composed? lead b with
  | some (letter, mark) => [some letter, some mark]
  | none => pairSymbols ((column? b).bind (indexSymbol big5Rows (lead.toNat - 0x81))) b

def step : Option UInt8 → UInt8 → List Symbol × Option UInt8
  | none, b =>
    if isAscii b then ([some (asciiChar b)], none)
    else if within 0x81 0xFE b then ([], some b)
    else ([none], none)
  | some lead, b => (pair lead b, none)

def decoder : Decoder (Option UInt8) := ⟨none, step, finishPending⟩

end Xbase.Charset.Big5
