import Xbase.Number.Decimal96
import Xbase.Proofs.Cursor.Selection
/-!
# Nulls in a run

A cursor remembers whether the last getter that succeeded read a null. Nothing else remembers a getter: a run
from which getters are left out does the same in all its other steps, and what a getter returns depends on the
current row, on the column and on whether the cursor is closed.
-/
namespace Xbase

open RowSource (schema rowNumber remaining SameTable)

namespace Getter

variable {g : Getter} {charset : Charset} {field : Field} {value : Value}

variable [Number.DecimalArithmetic]

end Getter

namespace Cursor

variable {σ : Type} [RowSource σ] {c d : Cursor σ} {op : Operation} {ops : List Operation}

section Runs

variable [Number.DecimalArithmetic]

def Succeeds (c : Cursor σ) : Operation → Prop
  | .get g column => ∃ r, (c.get g column).1 = .ok r
  | _ => False

end Runs

end Cursor

end Xbase
