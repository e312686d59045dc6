import Xbase.Cursor.Operation
import Xbase.Text.Quoted
/-!
# Describing a cursor

The text of a cursor in a log: its query, its table, and what can be seen of it.
-/
namespace Xbase

def Phase.text : Phase → String
  | .beforeFirst => "BeforeFirst"
  | .onRow => "OnRow"
  | .exhausted => "Exhausted"

namespace Cursor

variable {σ : Type} [RowSource σ]

def description (c : Cursor σ) : String :=
  "Cursor \x7b sql: " ++ Text.quotedString c.sql ++ ", table: " ++
    Text.quotedString (RowSource.identity c.source) ++ ", state: " ++ c.phase.text ++ ", row_number: " ++
    Number.natString c.view.rowNumber ++ ", was_null: " ++ Query.booleanText c.wasNull ++ ", closed: " ++
    Query.booleanText c.isClosed ++ " \x7d"

end Cursor

end Xbase
