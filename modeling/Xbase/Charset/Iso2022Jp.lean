import Xbase.Charset.Index.Jis0208
import Xbase.Charset.Index.Lookup
/-!
# ISO-2022-JP

Seven-bit text in which escape sequences choose a character set. An escape sequence straight after
another is malformed, and so is one that names no known set; its bytes are then read as text.
-/
namespace Xbase.Charset.Iso2022Jp

/-- A character set that an escape sequence chooses. -/
inductive GraphicSet where
  | ascii
  | roman
  | katakana
  | jis0208
deriving DecidableEq, Repr

/-- What an unfinished sequence consists of: the first byte of a pair, an escape character, or one with the byte after
it. -/
inductive Pending where
  | none
  | lead (b : UInt8)
  | escape
  | escapeWith (b : UInt8)
deriving DecidableEq, Repr

/-- The state between two bytes. It is fresh if nothing has been read since the last escape sequence. -/
structure State where
  set : GraphicSet
  pending : Pending
  fresh : Bool
deriving DecidableEq, Repr

def first (set : GraphicSet) (fresh : Bool) (b : UInt8) : List Symbol × State :=
  let text (symbol : Symbol) : List Symbol × State := ([symbol], ⟨set, .none, false⟩)
  if b = 0x1B then ([], ⟨set, .escape, fresh⟩)
  else match set with
    | .ascii =>
      if isAscii b && b ≠ 0x0E && b ≠ 0x0F then text (some (asciiChar b)) else text none
    | .roman =>
      if b = 0x5C then text (some '\u00A5')
      else if b = 0x7E then text (some '\u203E')
      else if isAscii b && b ≠ 0x0E && b ≠ 0x0F then text (some (asciiChar b))
      else text none
    | .katakana =>
      if within 0x21 0x5F b then text (some (Char.ofNat (0xFF61 + (b.toNat - 0x21)))) else text none
    | .jis0208 => if within 0x21 0x7E b then ([], ⟨set, .lead b, false⟩) else text none

/-- The character set that the two bytes after an escape character choose. -/
def chosen? (a b : UInt8) : Option GraphicSet :=
  match a, b with
  | 0x28, 0x42 => some .ascii
  | 0x28, 0x4A => some .roman
  | 0x28, 0x49 => some .katakana
  | 0x24, 0x40 => some .jis0208
  | 0x24, 0x42 => some .jis0208
  | _, _ => none

def after (symbols : List Symbol) (r : List Symbol × State) : List Symbol × State :=
  (symbols ++ r.1, r.2)

/-- Reads a byte in a state where nothing is pending or a pair or an escape character is. -/
def shortStep (s : State) (b : UInt8) : List Symbol × State :=
  match s.pending with
  | .lead lead =>
    if b = 0x1B then ([none], ⟨s.set, .escape, s.fresh⟩)
    else if within 0x21 0x7E b then
      ([indexSymbol jis0208Rows (lead.toNat - 0x21) (b.toNat - 0x21)], ⟨s.set, .none, s.fresh⟩)
    else ([none], ⟨s.set, .none, s.fresh⟩)
  | .escape =>
    if b = 0x24 || b = 0x28 then ([], ⟨s.set, .escapeWith b, s.fresh⟩)
    else after [none] (first s.set false b)
  | _ => first s.set s.fresh b

def step (s : State) (b : UInt8) : List Symbol × State :=
  match s.pending with
  | .escapeWith a =>
    match chosen? a b with
    | some set => (if s.fresh then [none] else [], ⟨set, .none, true⟩)
    | none =>
      let r := first s.set false a
      after (none :: r.1) (shortStep r.2 b)
  | _ => shortStep s b

def finish (s : State) : List Symbol :=
  match s.pending with
  | .none => []
  | .lead _ => [none]
  | .escape => [none]
  | .escapeWith a =>
    let r := first s.set false a
    none :: r.1 ++ match r.2.pending with
      | .none => []
      | _ => [none]

def decoder : Decoder State := ⟨⟨.ascii, .none, false⟩, step, finish⟩

end Xbase.Charset.Iso2022Jp
