import Xbase.Charset.Index.EucKr
import Xbase.Charset.Index.Lookup
/-!
# EUC-KR

ASCII and pairs of bytes, with the extension to all modern Korean syllables.
-/
namespace Xbase.Charset.EucKr

def pairSymbol (lead b : UInt8) : Symbol :=
  if within 0x41 0xFE b then indexSymbol eucKrRows (lead.toNat - 0x81) (b.toNat - 0x41) else none

def step : Option UInt8 → UInt8 → List Symbol × Option UInt8
  | none, b =>
    if isAscii b then ([some (asciiChar b)], none)
    else if within 0x81 0xFE b then ([], some b)
    else ([none], none)
  | some lead, b => (pairSymbols (pairSymbol lead b) b, none)

def decoder : Decoder (Option UInt8) := ⟨none, step, finishPending⟩

end Xbase.Charset.EucKr
