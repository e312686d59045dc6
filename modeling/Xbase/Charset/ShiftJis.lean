import Xbase.Charset.Index.Jis0208
import Xbase.Charset.Index.Lookup
/-!
# Shift_JIS

ASCII, half-width katakana and pairs of bytes. A first byte covers two rows of JIS X 0208; the rows for
the users' own characters lie in the private use area.
-/
namespace Xbase.Charset.ShiftJis

/-- The place of a pair in the order of all pairs, if the second byte may be one. -/
def pointer? (lead b : UInt8) : Option Nat :=
  if within 0x40 0x7E b || within 0x80 0xFC b then
    let leadOffset := if lead < 0xA0 then 0x81 else 0xC1
    let offset := if b < 0x7F then 0x40 else 0x41
    some ((lead.toNat - leadOffset) * 188 + (b.toNat - offset))
  else none

/-- The character of a place. The places from 8836 to 10715 belong to the users. -/
def pointerSymbol (pointer : Nat) : Symbol :=
  if 8836 ≤ pointer ∧ pointer ≤ 10715 then some (Char.ofNat (0xE000 + (pointer - 8836)))
  else indexSymbol jis0208Rows (pointer / 94) (pointer % 94)

def step : Option UInt8 → UInt8 → List Symbol × Option UInt8
  | none, b =>
    if b ≤ 0x80 then ([some (asciiChar b)], none)
    else if within 0xA1 0xDF b then ([some (halfWidthKatakana b)], none)
    else if within 0x81 0x9F b || within 0xE0 0xFC b then ([], some b)
    else ([none], none)
  | some lead, b => (pairSymbols ((pointer? lead b).bind pointerSymbol) b, none)

def decoder : Decoder (Option UInt8) := ⟨none, step, finishPending⟩

end Xbase.Charset.ShiftJis
