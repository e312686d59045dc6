import Xbase.Proofs.Cursor.Step
/-!
# Some steps of a run

The steps of a run that are asked for by marks on its operations. The other operations are carried out as well.
-/
namespace Xbase

namespace Cursor

variable {σ : Type} [RowSource σ] [Number.DecimalArithmetic]

/-- The steps of a run whose operations are marked. -/
def runMarked (c : Cursor σ) (marked : List (Operation × Bool)) : List (Except Error Outcome × View) :=
  ((c.run (marked.map Prod.fst)).zip (marked.map Prod.snd)).filterMap
    fun (step, mark) => if mark then some step else none

variable {c : Cursor σ} {op : Operation} {marked : List (Operation × Bool)}

theorem runMarked_cons_true :
    c.runMarked ((op, true) :: marked) =
      ((c.perform op).1, (c.perform op).2.view) :: (c.perform op).2.runMarked marked := by
  simp [runMarked, run]

theorem runMarked_cons_false :
    c.runMarked ((op, false) :: marked) = (c.perform op).2.runMarked marked := by
  simp [runMarked, run]

end Cursor

end Xbase
