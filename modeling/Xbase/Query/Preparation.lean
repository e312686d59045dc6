import Xbase.Query.Grammar
import Xbase.Schema
/-!
# Preparing a query

A text becomes a query on a table when it parses and every column it names exists. A fault of the text
comes before any missing column, and the missing column that is named first is reported.
-/
namespace Xbase.Query

def requireColumns (schema : Schema) : List String → Except Error Unit
  | [] => .ok ()
  | name :: names =>
    match schema.field name with
    | .ok _ => requireColumns schema names
    | .error e => .error e

/-- The query on a table that a text stands for. -/
def prepare (sql : String) (schema : Schema) : Except Error Statement :=
  match parse sql.toList with
  | .error fault => .error (.query sql fault)
  | .ok statement =>
    match requireColumns schema statement.namedColumns with
    | .ok () => .ok statement
    | .error e => .error e

end Xbase.Query
