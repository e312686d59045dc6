import Xbase.Charset.Decoder
/-!
# UTF-8

The decoder marks each longest start of a well-formed sequence that does not go on as one malformed
sequence, and reads the byte that broke it off again. The encoder is the other direction.
-/
namespace Xbase.Charset.Utf8

/-- An unfinished sequence: how many bytes must follow, the bounds of the next one, and the bits of the bytes before. -/
structure Pending where
  needed : Nat
  low : UInt8
  high : UInt8
  bits : Nat
deriving DecidableEq, Repr

/-- The sequence that a first byte opens, if it opens one of several bytes. The bounds of the second byte
exclude longer spellings than needed, surrogates and what lies beyond the last code point. -/
def opened? (b : UInt8) : Option Pending :=
  if within 0xC2 0xDF b then some ⟨1, 0x80, 0xBF, b.toNat - 0xC0⟩
  else if within 0xE0 0xEF b then
    some ⟨2, if b = 0xE0 then 0xA0 else 0x80, if b = 0xED then 0x9F else 0xBF, b.toNat - 0xE0⟩
  else if within 0xF0 0xF4 b then
    some ⟨3, if b = 0xF0 then 0x90 else 0x80, if b = 0xF4 then 0x8F else 0xBF, b.toNat - 0xF0⟩
  else none

def first (b : UInt8) : List Symbol × Option Pending :=
  if isAscii b then ([some (asciiChar b)], none)
  else match opened? b with
    | some p => ([], some p)
    | none => ([none], none)

def step : Option Pending → UInt8 → List Symbol × Option Pending
  | none, b => first b
  | some p, b =>
    if within p.low p.high b then
      let bits := p.bits * 64 + (b.toNat - 0x80)
      if p.needed ≤ 1 then ([scalar? bits], none) else ([], some ⟨p.needed - 1, 0x80, 0xBF, bits⟩)
    else (none :: (first b).1, (first b).2)

def decoder : Decoder (Option Pending) where
  start := none
  step := step
  finish
    | none => []
    | some _ => [none]

/-- The byte after the first that carries the six low bits of a number. -/
def tail (n : Nat) : UInt8 := UInt8.ofNat (0x80 + n % 64)

def encodeChar (c : Char) : List UInt8 :=
  let n := c.toNat
  if n < 0x80 then [UInt8.ofNat n]
  else if n < 0x800 then [UInt8.ofNat (0xC0 + n / 64), tail n]
  else if n < 0x10000 then [UInt8.ofNat (0xE0 + n / 4096), tail (n / 64), tail n]
  else [UInt8.ofNat (0xF0 + n / 262144), tail (n / 4096), tail (n / 64), tail n]

def encode (s : List Char) : List UInt8 := s.flatMap encodeChar

/-- The text of a well-formed sequence of bytes. -/
def decode? (bytes : List UInt8) : Option (List Char) := (decoder.run bytes).mapM id

end Xbase.Charset.Utf8
