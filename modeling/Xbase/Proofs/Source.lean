import Xbase.Source
/-!
# Reading from sources

A source keeps its columns, its name and the number of its rows as it is read, and it counts the rows that it
hands out. The rows that a source in memory has not handed out yet are handed out in order.
-/
namespace Xbase

namespace RowSource

variable {σ : Type} [RowSource σ]

structure SameTable (s t : σ) : Prop where
  schema : schema s = schema t
  identity : identity s = identity t
  rowCount : rowCount s = rowCount t

theorem SameTable.refl (s : σ) : SameTable s s := ⟨rfl, rfl, rfl⟩

theorem SameTable.trans {s t u : σ} (h : SameTable s t) (h' : SameTable t u) : SameTable s u :=
  ⟨h.schema.trans h'.schema, h.identity.trans h'.identity, h.rowCount.trans h'.rowCount⟩

end RowSource

/-- A source that keeps its rows as it is read, whether reading succeeds or fails. -/
class LawfulRowSource (σ : Type) [RowSource σ] : Prop where
  sameTable_read (s : σ) : RowSource.SameTable (RowSource.read s).2 s

instance : LawfulRowSource MemorySource where
  sameTable_read s := by
    change RowSource.SameTable s.read.2 s
    unfold MemorySource.read
    split <;> exact ⟨rfl, rfl, rfl⟩

/-- A source that counts each row it hands out, and no attempt that fails. -/
class CountingRowSource (σ : Type) [RowSource σ] : Prop extends LawfulRowSource σ where
  rowNumber_of_ok {s t : σ} {row : Row} (h : RowSource.read s = (.ok row, t)) :
    RowSource.rowNumber t = RowSource.rowNumber s + 1
  rowNumber_of_error {s t : σ} {e : Error} (h : RowSource.read s = (.error e, t)) :
    RowSource.rowNumber t = RowSource.rowNumber s

instance : CountingRowSource MemorySource where
  rowNumber_of_ok {s t row} h := by
    change s.read = _ at h
    unfold MemorySource.read at h
    split at h
    · cases h
      rfl
    · cases h
  rowNumber_of_error {s t e} h := by
    change s.read = _ at h
    unfold MemorySource.read at h
    split at h
    · cases h
    · cases h
      rfl

def LacksField {α : Type} (r : Except Error α) : Prop := ∃ column table, r = .error (.noSuchField column table)

/-- A source whose rows all have its own columns, and that finds no column missing while it reads. -/
class TypedRowSource (σ : Type) [RowSource σ] : Prop extends LawfulRowSource σ where
  schema_of_read {s t : σ} {row : Row} (h : RowSource.read s = (.ok row, t)) : row.schema = RowSource.schema s
  not_lacksField_read (s : σ) : ¬ LacksField (RowSource.read s).1

instance : TypedRowSource MemorySource where
  schema_of_read {s t row} h := by
    change s.read = _ at h
    unfold MemorySource.read at h
    split at h <;> cases h
    rfl
  not_lacksField_read s := by
    rintro ⟨column, table, h⟩
    change s.read.1 = _ at h
    unfold MemorySource.read at h
    split at h <;> cases h

namespace MemorySource

def pending (s : MemorySource) : List Row := (s.rows.drop s.position).map (Row.ofValues s.schema)

theorem remaining_eq_length (s : MemorySource) : RowSource.remaining s = s.pending.length := by
  simp [pending, RowSource.remaining, RowSource.rowCount, RowSource.rowNumber]

theorem read_of_pending {s : MemorySource} {row : Row} {rows : List Row}
    (h : s.pending = row :: rows) :
    RowSource.read s = (.ok row, { s with position := s.position + 1 }) := by
  obtain ⟨values, rest, hrest, rfl, rfl⟩ := List.map_eq_cons_iff.mp h
  have hget : s.rows[s.position]? = some values := by
    rw [← List.head?_drop, hrest]
    rfl
  change MemorySource.read s = _
  rw [MemorySource.read, hget]

theorem read_of_pending_nil {s : MemorySource} (h : s.pending = []) :
    RowSource.read s = (.error (.noResult "" s.schema.table), s) := by
  have hget : s.rows[s.position]? = none := by
    rw [← List.head?_drop, List.map_eq_nil_iff.mp h]
    rfl
  change MemorySource.read s = _
  rw [MemorySource.read, hget]

theorem pending_succ {s : MemorySource} {row : Row} {rows : List Row} (h : s.pending = row :: rows) :
    pending { s with position := s.position + 1 } = rows := by
  have htail : (s.pending).tail = rows := by rw [h]; rfl
  rw [← htail, pending, pending, ← List.map_tail, List.tail_drop]

end MemorySource

end Xbase
