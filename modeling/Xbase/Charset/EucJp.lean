import Xbase.Charset.Index.Jis0208
import Xbase.Charset.Index.Jis0212
import Xbase.Charset.Index.Lookup
/-!
# EUC-JP

ASCII, half-width katakana after 8E, pairs for JIS X 0208, and pairs after 8F for JIS X 0212.
-/
namespace Xbase.Charset.EucJp

/-- An unfinished sequence: its first byte, or 8F and the byte after it. -/
inductive Pending where
  | lead (b : UInt8)
  | supplementary (b : UInt8)
deriving DecidableEq, Repr

def pairSymbol (rows : List String) (lead b : UInt8) : Symbol :=
  if within 0xA1 0xFE lead && within 0xA1 0xFE b then
    indexSymbol rows (lead.toNat - 0xA1) (b.toNat - 0xA1)
  else none

def step : Option Pending → UInt8 → List Symbol × Option Pending
  | none, b =>
    if isAscii b then ([some (asciiChar b)], none)
    else if b = 0x8E || b = 0x8F || within 0xA1 0xFE b then ([], some (.lead b))
    else ([none], none)
  | some (.lead lead), b =>
    if lead = 0x8E && within 0xA1 0xDF b then ([some (halfWidthKatakana b)], none)
    else if lead = 0x8F && within 0xA1 0xFE b then ([], some (.supplementary b))
    else (pairSymbols (pairSymbol jis0208Rows lead b) b, none)
  | some (.supplementary lead), b => (pairSymbols (pairSymbol jis0212Rows lead b) b, none)

def decoder : Decoder (Option Pending) := ⟨none, step, finishPending⟩

end Xbase.Charset.EucJp
