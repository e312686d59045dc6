import Xbase.Text.Ranges
/-!
# White space

The Unicode property White_Space, and the removal of white space from both ends of a text.
-/
namespace Xbase.Text

/-- The code points with the property White_Space. -/
def blankRanges : Ranges :=
  [(0x09, 0x0D), (0x20, 0x20), (0x85, 0x85), (0xA0, 0xA0), (0x1680, 0x1680), (0x2000, 0x200A),
   (0x2028, 0x2029), (0x202F, 0x202F), (0x205F, 0x205F), (0x3000, 0x3000)]

def isBlank (c : Char) : Bool := blankRanges.has c.toNat

/-- Removes from both ends of a list the elements that satisfy a test. -/
def trimBoth {α : Type} (p : α → Bool) (s : List α) : List α :=
  (s.dropWhile p).reverse.dropWhile p |>.reverse

def trim (s : List Char) : List Char := trimBoth isBlank s

end Xbase.Text
