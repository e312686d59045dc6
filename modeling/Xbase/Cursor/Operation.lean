import Xbase.Cursor.Basic
/-!
# Runs of a cursor

The operations that change a cursor as values, and what a cursor shows after each of them.
-/
namespace Xbase

inductive Operation where
  | next
  | get (g : Getter) (column : ColumnRef)
  | close
  | closeOwner (i : Nat)
deriving DecidableEq, Repr

/-- What an operation returns. -/
inductive Outcome where
  | moved (found : Bool)
  | got (r : Option Reading)
  | done
deriving DecidableEq, Repr

/-- What can be seen of a cursor. -/
structure View where
  phase : Phase
  rowNumber : Nat
  wasNull : Bool
  isClosed : Bool
deriving DecidableEq, Repr

namespace Cursor

variable {σ : Type} [RowSource σ] [Number.DecimalArithmetic]

def perform (c : Cursor σ) : Operation → Except Error Outcome × Cursor σ
  | .next => (c.next.1.map .moved, c.next.2)
  | .get g column => ((c.get g column).1.map .got, (c.get g column).2)
  | .close => (.ok .done, c.close)
  | .closeOwner i => (.ok .done, c.closeOwner i)

def view (c : Cursor σ) : View := ⟨c.phase, RowSource.rowNumber c.source, c.wasNull, c.isClosed⟩

/-- What operations return one after the other, each with what can be seen after it. -/
def run (c : Cursor σ) : List Operation → List (Except Error Outcome × View)
  | [] => []
  | op :: ops => ((c.perform op).1, (c.perform op).2.view) :: (c.perform op).2.run ops

def after (c : Cursor σ) (ops : List Operation) : Cursor σ :=
  ops.foldl (fun c op => (c.perform op).2) c

end Cursor

end Xbase
