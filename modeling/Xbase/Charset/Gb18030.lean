import Xbase.Charset.Index.Gb18030
import Xbase.Charset.Index.Gb18030Runs
import Xbase.Charset.Index.Lookup
/-!
# GB 18030

ASCII, pairs of bytes, and sequences of four bytes that reach every code point. A sequence that breaks off
after its second or third byte is malformed at its first byte alone: the bytes after it are read again.
-/
namespace Xbase.Charset.Gb18030

inductive Pending where
  | one (a : UInt8)
  | two (a b : UInt8)
  | three (a b c : UInt8)
deriving DecidableEq, Repr

/-- The number of a code of four bytes. -/
def pointer (a b c d : UInt8) : Nat :=
  (((a.toNat - 0x81) * 10 + (b.toNat - 0x30)) * 126 + (c.toNat - 0x81)) * 10 + (d.toNat - 0x30)

/-- The code point of the greatest run that starts at or before a number. -/
def runValue (n : Nat) : List (Nat × Nat) → Nat → Nat
  | [], found => found
  | (start, codePoint) :: runs, found =>
    if start ≤ n then runValue n runs (codePoint + (n - start)) else found

def pointerSymbol (n : Nat) : Symbol :=
  if n ≤ 39419 then scalar? (runValue n gb18030Runs 0)
  else if 189000 ≤ n ∧ n ≤ 1237575 then scalar? (0x10000 + (n - 189000))
  else none

def pairSymbol (lead b : UInt8) : Symbol :=
  if within 0x40 0x7E b then indexSymbol gb18030Rows (lead.toNat - 0x81) (b.toNat - 0x40)
  else if within 0x80 0xFE b then indexSymbol gb18030Rows (lead.toNat - 0x81) (b.toNat - 0x41)
  else none

def first (b : UInt8) : List Symbol × Option Pending :=
  if isAscii b then ([some (asciiChar b)], none)
  else if b = 0x80 then ([some '\u20AC'], none)
  else if within 0x81 0xFE b then ([], some (.one b))
  else ([none], none)

def second (a b : UInt8) : List Symbol × Option Pending :=
  if within 0x30 0x39 b then ([], some (.two a b)) else (pairSymbols (pairSymbol a b) b, none)

def step : Option Pending → UInt8 → List Symbol × Option Pending
  | none, b => first b
  | some (.one a), b => second a b
  | some (.two a b), c =>
    if within 0x81 0xFE c then ([], some (.three a b c))
    else ([none, some (asciiChar b)] ++ (first c).1, (first c).2)
  | some (.three a b c), d =>
    if within 0x30 0x39 d then ([pointerSymbol (pointer a b c d)], none)
    else ([none, some (asciiChar b)] ++ (second c d).1, (second c d).2)

def decoder : Decoder (Option Pending) := ⟨none, step, finishPending⟩

end Xbase.Charset.Gb18030
