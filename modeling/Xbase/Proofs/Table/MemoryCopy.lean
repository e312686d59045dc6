import Xbase.Number.Decimal96
import Xbase.Proofs.Cursor.Simulation
import Xbase.Proofs.Row
import Xbase.Proofs.Table.Reader
import Xbase.Table.Layout
/-!
# Tables copied to memory

The rows of a table can be read to the end and kept in memory. If every record is completely there, a cursor
over the table and a cursor over the copy show the same in every run.
-/
namespace Xbase.Table.Reader

def memoryCopy (r : Reader) : MemorySource := .ofRows r.schema (r.rows.map Row.values)

/-- A reader and a source in memory that count the same rows and have the same rows left to read. -/
structure Copies (r : Reader) (s : MemorySource) : Prop where
  schema : r.schema = s.schema
  identity : r.identity = s.schema.table
  rowCount : r.header.recordCount = s.rows.length
  rowNumber : r.rowNumber = s.position
  isWhole : r.IsWhole
  rows : r.rows = s.pending

variable {r : Reader} {s : MemorySource}

private theorem copies_memoryCopy (hidentity : r.identity = r.schema.table) (hstart : r.rowNumber = 0)
    (hwhole : r.IsWhole) : Copies r r.memoryCopy where
  schema := rfl
  identity := hidentity
  rowCount := by
    have hlength := hwhole.length_rows
    rw [hstart, Nat.sub_zero] at hlength
    rw [memoryCopy, MemorySource.ofRows, List.length_map, hlength]
  rowNumber := hstart
  isWhole := hwhole
  rows := by
    have hrow : ∀ row ∈ r.rows, Row.ofValues r.schema row.values = row := fun row hmem => by
      rw [← schema_of_mem_rows hmem]
      exact row.ofValues_values
    change r.rows = (r.rows.map Row.values).map (Row.ofValues r.schema)
    rw [List.map_map]
    exact ((List.map_congr_left hrow).trans (List.map_id _)).symm

private theorem Copies.read (h : Copies r s) :
    (RowSource.read r).1 = (RowSource.read s).1 ∧ Copies (RowSource.read r).2 (RowSource.read s).2 := by
  have hwhole := h.isWhole.read
  change r.read.1 = _ ∧ Copies r.read.2 _
  by_cases hspent : r.header.recordCount ≤ r.rowNumber
  · have hread := read_of_spent hspent
    rw [MemorySource.read_of_pending_nil (h.rows.symm.trans (rows_of_error hread)), hread, h.identity]
    exact ⟨rfl, h⟩
  · have hlt := Nat.not_le.mp hspent
    have hread := read_of_whole hlt (h.isWhole.recordLength_le hlt)
    have hpending := h.rows.symm.trans (rows_of_ok hread)
    rw [MemorySource.read_of_pending hpending]
    rw [hread] at hwhole ⊢
    refine ⟨rfl, h.schema, h.identity, h.rowCount, congrArg (· + 1) h.rowNumber, hwhole, ?_⟩
    exact (MemorySource.pending_succ hpending).symm

private theorem simulation_copies : Simulation Copies where
  schema h := h.schema
  identity h := h.identity
  rowCount h := h.rowCount
  rowNumber h := h.rowNumber
  read_fst h := h.read.1
  read_snd h := h.read.2

/-- A cursor over a table whose records are completely there, and a cursor over its rows in memory, are made
with the same result, and show the same after each operation of a run. -/
theorem run_memoryCopy [Number.DecimalArithmetic] {table : String} {explicit : Option Charset} {bytes : List UInt8}
    (h : ofMemory table explicit bytes = .ok r)
    (hwhole : r.header.headerLength + r.header.recordCount * r.header.recordLength ≤ bytes.length)
    (sql : String) (boundary : Boundary) (owners : Nat) (ops : List Operation) :
    (Cursor.ofQuery r sql boundary owners).map (fun c => (c.view, c.run ops)) =
      (Cursor.ofQuery r.memoryCopy sql boundary owners).map (fun c => (c.view, c.run ops)) := by
  obtain ⟨-, -, -, -, -, htable, hidentity, hbody, hrest, hnumber, -⟩ := eq_of_decode (eq_of_ofMemory h)
  have hr : r.IsWhole := by
    rw [IsWhole, hnumber, Nat.sub_zero, hrest, hbody, List.length_drop]
    omega
  have hcopies := copies_memoryCopy (hidentity.trans htable.symm) hnumber hr
  rw [simulation_copies.ofQuery_eq hcopies]
  cases hc : Cursor.ofQuery r sql boundary owners with
  | error e => rfl
  | ok c =>
    obtain ⟨statement, -, rfl⟩ := Cursor.ofQuery_eq_ok_iff.mp hc
    simp only [Except.map]
    rw [simulation_copies.view_eq hcopies, simulation_copies.run_eq hcopies]

def smallTable : Layout where
  version := 3
  updated := (124, 2, 29)
  languageDriver := 3
  fields := [⟨[0x41], 0x43, 1, 0⟩]
  records := [⟨false, [[0x78]]⟩, ⟨true, [[0x79]]⟩]

theorem run_memoryCopy_smallTable :
    ∃ r, ofMemory "t" none smallTable.bytes = .ok r ∧
      r.header.headerLength + r.header.recordCount * r.header.recordLength ≤ smallTable.bytes.length ∧
      ∀ sql boundary owners ops,
        (Cursor.ofQuery r sql boundary owners).map (fun c => (c.view, c.run ops)) =
          (Cursor.ofQuery r.memoryCopy sql boundary owners).map (fun c => (c.view, c.run ops)) := by
  have h : ofMemory "t" none smallTable.bytes = .ok
      { header := ⟨3, Date.of? 2024 2 29, 2, 65, 2, 3⟩
        schema := ⟨"t", [⟨"A", .character, 1, 0⟩], .page .windows1252⟩
        origin := .languageDriver
        identity := "t"
        body := [0x20, 0x78, 0x2A, 0x79, 0x1A]
        rest := [0x20, 0x78, 0x2A, 0x79, 0x1A]
        rowNumber := 0
        deleted := false } := by
    decide +kernel
  have hwhole : 65 + 2 * 2 ≤ smallTable.bytes.length := by decide +kernel
  exact ⟨_, h, hwhole, run_memoryCopy h hwhole⟩

end Xbase.Table.Reader
