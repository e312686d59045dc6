import Xbase.Schema
/-!
# Rows

A row holds a value for each column of its schema. A value is absent or a sequence of bytes, which a
character set or a number format gives a meaning later.
-/
namespace Xbase

/-- The value of a column in a row: its bytes, or nothing. -/
abbrev Value := Option (List UInt8)

structure Row where
  schema : Schema
  values : List Value
  length_values : values.length = schema.columnCount
deriving DecidableEq, Repr

namespace Row

/-- A row of given values. Missing values at the end are absent, and surplus values are dropped. -/
def ofValues (schema : Schema) (values : List Value) : Row where
  schema := schema
  values := (values ++ List.replicate schema.columnCount none).take schema.columnCount
  length_values := by simp

/-- The value of the first column of a name. -/
def get (row : Row) (name : String) : Except Error Value :=
  match row.schema.position? name with
  | some i => .ok (row.values[i]?.getD none)
  | none => .error (.noSuchField name row.schema.table)

end Row

end Xbase
