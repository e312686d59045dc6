import Xbase.Query.Token
/-!
# Statements

The queries that are supported: a list of columns or all of them, a table, and at most one comparison of a
column with a literal.
-/
namespace Xbase.Query

inductive SelectList where
  | all
  | columns (names : List String)
deriving DecidableEq, Repr

/-- A condition: a column, an operator and a literal. -/
structure Comparison where
  column : String
  operator : Operator
  literal : Literal
deriving DecidableEq, Repr

structure Statement where
  columns : SelectList
  table : String
  condition : Option Comparison
deriving DecidableEq, Repr

def SelectList.text : SelectList → String
  | .all => "*"
  | .columns names => ", ".intercalate names

def Comparison.text (c : Comparison) : String :=
  c.column ++ " " ++ c.operator.text ++ " " ++ c.literal.text

def Statement.text (s : Statement) : String :=
  "SELECT " ++ s.columns.text ++ " FROM " ++ s.table ++
    match s.condition with
    | some c => " WHERE " ++ c.text
    | none => ""

/-- The columns a query names, those it asks for before that of its condition. -/
def Statement.namedColumns (s : Statement) : List String :=
  (match s.columns with
    | .all => []
    | .columns names => names) ++ (s.condition.map Comparison.column).toList

end Xbase.Query
