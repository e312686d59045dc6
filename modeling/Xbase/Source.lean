import Xbase.Row
/-!
# Sources of rows

A source hands out rows one after the other and counts them. Reading may fail, and a source is left in some
state then too.
-/
namespace Xbase

/-- Something that rows can be read from. `identity` is its name in messages, and `rowNumber` counts the rows read so
far. The character set it declares for the texts in them is that of its schema: no source here declares another. -/
class RowSource (σ : Type) where
  schema : σ → Schema
  identity : σ → String
  rowCount : σ → Nat
  rowNumber : σ → Nat
  read : σ → Except Error Row × σ

def RowSource.remaining {σ : Type} [RowSource σ] (s : σ) : Nat := rowCount s - rowNumber s

/-- Rows held in memory. -/
structure MemorySource where
  schema : Schema
  rows : List (List Value)
  position : Nat
deriving DecidableEq, Repr

namespace MemorySource

/-- A source of which nothing has been read. -/
def ofRows (schema : Schema) (rows : List (List Value)) : MemorySource := ⟨schema, rows, 0⟩

def read (s : MemorySource) : Except Error Row × MemorySource :=
  match s.rows[s.position]? with
  | some values => (.ok (.ofValues s.schema values), { s with position := s.position + 1 })
  | none => (.error (.noResult "" s.schema.table), s)

end MemorySource

instance : RowSource MemorySource where
  schema s := s.schema
  identity s := s.schema.table
  rowCount s := s.rows.length
  rowNumber s := s.position
  read := MemorySource.read

end Xbase
