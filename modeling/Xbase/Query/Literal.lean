import Xbase.Number.Shortest
/-!
# Literals

The values a condition compares a column with, and the way they are written in a query.
-/
namespace Xbase.Query

open Number (Binary64)

inductive Literal where
  | integer (n : Int64)
  | float (x : Binary64)
  | string (s : String)
  | boolean (b : Bool)
  | null
deriving DecidableEq, Repr

def booleanText (b : Bool) : String := if b then "true" else "false"

def integerText (n : Int64) : String := String.ofList (Number.intText n.toInt)

/-- The shortest decimal of a floating-point number. -/
def floatText (x : Binary64) : String := String.ofList x.text

/-- A text with each single quote written twice. -/
def doubleQuotes (s : List Char) : List Char := s.flatMap fun c => if c = '\'' then [c, c] else [c]

def Literal.text : Literal → String
  | .integer n => integerText n
  | .float x => floatText x
  | .string s => "'" ++ String.ofList (doubleQuotes s.toList) ++ "'"
  | .boolean b => booleanText b
  | .null => "NULL"

end Xbase.Query
