/-!
# Decoders

A decoder reads bytes one at a time and yields symbols: characters, and a mark for each malformed sequence.
What it keeps between two bytes is its state.
-/
namespace Xbase.Charset

/-- A character, or `none` for a malformed sequence of bytes. -/
abbrev Symbol := Option Char

def replacementChar : Char := '\uFFFD'

/-- A machine from bytes to symbols. A step returns the symbols that a byte completes, `finish` those that the end of
the input completes. -/
structure Decoder (σ : Type) where
  start : σ
  step : σ → UInt8 → List Symbol × σ
  finish : σ → List Symbol

namespace Decoder

variable {σ : Type}

def runFrom (d : Decoder σ) : σ → List UInt8 → List Symbol
  | s, [] => d.finish s
  | s, b :: rest => (d.step s b).1 ++ d.runFrom (d.step s b).2 rest

def run (d : Decoder σ) (bytes : List UInt8) : List Symbol := d.runFrom d.start bytes

end Decoder

/-- The character of a code point, or `none` for a surrogate and beyond the last code point. -/
def scalar? (n : Nat) : Symbol := if h : n.isValidChar then some (Char.ofNatAux n h) else none

def asciiChar (b : UInt8) : Char := Char.ofNat b.toNat

def isAscii (b : UInt8) : Bool := b < 0x80

def within (low high b : UInt8) : Bool := low ≤ b && b ≤ high

/-- A malformed sequence whose last byte is read again if it is an ASCII character. -/
def malformed (b : UInt8) : List Symbol := if isAscii b then [none, some (asciiChar b)] else [none]

end Xbase.Charset
