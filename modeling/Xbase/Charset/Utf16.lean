import Xbase.Charset.Decoder
/-!
# UTF-16

Two bytes make a unit, and a high surrogate with a low one makes a character. A surrogate without its
partner is malformed, and the unit after a lone high surrogate is read again.
-/
namespace Xbase.Charset.Utf16

inductive ByteOrder where
  | bigEndian
  | littleEndian
deriving DecidableEq, Repr

/-- What is left over between two bytes: a high surrogate that waits for its partner, and the first byte of a unit. -/
structure Pending where
  high? : Option Nat
  byte? : Option UInt8
deriving DecidableEq, Repr

def unit (order : ByteOrder) (a b : UInt8) : Nat :=
  match order with
  | .bigEndian => a.toNat * 256 + b.toNat
  | .littleEndian => b.toNat * 256 + a.toNat

def isHigh (u : Nat) : Bool := 0xD800 ≤ u && u < 0xDC00

def isLow (u : Nat) : Bool := 0xDC00 ≤ u && u < 0xE000

/-- Reads a unit that follows no high surrogate. -/
def first (u : Nat) : List Symbol × Option Nat :=
  if isHigh u then ([], some u) else ([scalar? u], none)

def readUnit : Option Nat → Nat → List Symbol × Option Nat
  | none, u => first u
  | some high, u =>
    if isLow u then ([scalar? (0x10000 + (high - 0xD800) * 1024 + (u - 0xDC00))], none)
    else (none :: (first u).1, (first u).2)

def step (order : ByteOrder) (s : Pending) (b : UInt8) : List Symbol × Pending :=
  match s.byte? with
  | none => ([], ⟨s.high?, some b⟩)
  | some a =>
    let (symbols, high?) := readUnit s.high? (unit order a b)
    (symbols, ⟨high?, none⟩)

/-- The machine that reads UTF-16. What is left at the end is one malformed sequence. -/
def decoder (order : ByteOrder) : Decoder Pending where
  start := ⟨none, none⟩
  step := step order
  finish s := if s.high?.isSome || s.byte?.isSome then [none] else []

end Xbase.Charset.Utf16
