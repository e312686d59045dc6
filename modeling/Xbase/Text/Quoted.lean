import Xbase.Text.Printable
/-!
# Quoted text

A text between double quotes in which every character is visible: quotes, backslashes and the common
controls are written with a backslash, and any other character without a shape of its own by its
hexadecimal code point in braces.
-/
namespace Xbase.Text

/-- The letter that follows the backslash in the short escape of a character. -/
def escapeLetter? : Char → Option Char
  | '\x00' => some '0'
  | '\t' => some 't'
  | '\r' => some 'r'
  | '\n' => some 'n'
  | '"' => some '"'
  | '\\' => some '\\'
  | _ => none

def quotedChar (c : Char) : List Char :=
  match escapeLetter? c with
  | some letter => ['\\', letter]
  | none =>
    if isPrintable c && !isAttaching c then [c]
    else ['\\', 'u', '{'] ++ Nat.toDigits 16 c.toNat ++ ['}']

def quoted (s : List Char) : List Char := '"' :: s.flatMap quotedChar ++ ['"']

def quotedString (s : String) : String := String.ofList (quoted s.toList)

end Xbase.Text
