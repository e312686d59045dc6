import Xbase.Number.Decimal96
import Xbase.Proofs.Cursor.Simulation
import Xbase.Proofs.Query.Preparation
import Xbase.Proofs.Table.Field
/-!
# What a condition sees of a table

Two tables with the same header and the same length may hold anything in the columns that a condition is not on.
A cursor goes to the same records of both, and where it fails on one of them, it fails on the other in the same
way.
-/
namespace Xbase

open Table (Reader recordRow columnAt)

namespace Table.Reader

variable {r r' : Reader} {bytes bytes' : List UInt8} {column : String}

/-- Readers of tables with the same header and the same length, in which the records that are there agree in the
first field of a name. -/
structure AgreeOn (column : String) (r : Reader) (bytes : List UInt8) (r' : Reader) (bytes' : List UInt8) :
    Prop where
  isOver : r.IsOver bytes
  isOver' : r'.IsOver bytes'
  header : r'.header = r.header
  schema : r'.schema = r.schema
  identity : r'.identity = r.identity
  length : bytes'.length = bytes.length
  column : ∀ k < r.header.presentCount bytes,
    columnAt r.schema (r.header.recordAt bytes k) column =
      columnAt r'.schema (r'.header.recordAt bytes' k) column

/-- States in which as many records of the one table have been read as of the other. -/
def ReadAlike (r : Reader) (bytes : List UInt8) (r' : Reader) (bytes' : List UInt8) (q q' : Reader) : Prop :=
  ∃ k ≤ r.header.presentCount bytes, r.HasRead bytes k q ∧ r'.HasRead bytes' k q'

/-- The rows of one record in both tables, by the number of records read up to it. -/
def RowsOfRecord (r : Reader) (bytes : List UInt8) (r' : Reader) (bytes' : List UInt8) (n : Nat)
    (row row' : Row) : Prop :=
  ∃ k < r.header.presentCount bytes, n = k + 1 ∧
    row = recordRow r.schema (r.header.recordAt bytes k) ∧
    row' = recordRow r'.schema (r'.header.recordAt bytes' k)

namespace AgreeOn

private theorem presentCount (h : AgreeOn column r bytes r' bytes') :
    r'.header.presentCount bytes' = r.header.presentCount bytes := by
  rw [Header.presentCount, Header.presentCount, h.header, h.length]

private theorem endError (h : AgreeOn column r bytes r' bytes') : r'.endError bytes' = r.endError bytes := by
  rw [Reader.endError, Reader.endError, h.presentCount, h.header, h.identity]

theorem read (h : AgreeOn column r bytes r' bytes') {q q' : Reader} (hq : ReadAlike r bytes r' bytes' q q') :
    Alike (RowsOfRecord r bytes r' bytes' q.read.2.rowNumber) q.read.1 q'.read.1 ∧
      ReadAlike r bytes r' bytes' q.read.2 q'.read.2 := by
  obtain ⟨k, hk, hread, hread'⟩ := hq
  rcases Nat.lt_or_eq_of_le hk with hlt | rfl
  · have hlt' : k < r'.header.presentCount bytes' := by rwa [h.presentCount]
    rw [hread.read_of_lt h.isOver hlt, hread'.read_of_lt h.isOver' hlt']
    exact ⟨.ok ⟨k, hlt, rfl, rfl, rfl⟩, k + 1, hlt, .inl rfl, .inl rfl⟩
  · rw [← h.presentCount] at hread'
    obtain ⟨p, hp, hend⟩ := hread.read_of_eq h.isOver
    obtain ⟨p', hp', hend'⟩ := hread'.read_of_eq h.isOver'
    rw [hp, hp', h.endError]
    rw [h.presentCount] at hend'
    exact ⟨.error _, _, Nat.le_refl _, hend, hend'⟩

theorem rowSimulation (h : AgreeOn column r bytes r' bytes') :
    RowSimulation (ReadAlike r bytes r' bytes') (RowsOfRecord r bytes r' bytes') where
  schema := by
    rintro q q' ⟨k, -, hread, hread'⟩
    change q.schema = q'.schema
    rw [hread.schema, hread'.schema, h.schema]
  identity := by
    rintro q q' ⟨k, -, hread, hread'⟩
    change q.identity = q'.identity
    rw [hread.identity, hread'.identity, h.identity]
  rowCount := by
    rintro q q' ⟨k, -, hread, hread'⟩
    change q.header.recordCount = q'.header.recordCount
    rw [hread.header, hread'.header, h.header]
  rowNumber := by
    rintro q q' ⟨k, -, hread, hread'⟩
    change q.rowNumber = q'.rowNumber
    rw [hread.rowNumber, hread'.rowNumber]
  read_fst hq := (h.read hq).1
  read_snd hq := (h.read hq).2

private theorem respects {q : Query.Comparison} (h : AgreeOn q.column r bytes r' bytes') :
    RowSimulation.Respects (RowsOfRecord r bytes r' bytes') (some q) := by
  rintro n row row' ⟨k, hk, -, rfl, rfl⟩
  have hcolumn := h.column k hk
  rw [h.schema] at hcolumn ⊢
  exact Query.Comparison.holds_congr_row rfl (Table.get_recordRow_congr hcolumn)

theorem of_ofBytes {naming : Naming} (h : ofBytes naming bytes = .ok r) (h' : ofBytes naming bytes' = .ok r')
    (hhead : bytes.take r.header.headerLength = bytes'.take r.header.headerLength)
    (hlength : bytes.length = bytes'.length)
    (hcolumn : ∀ k < r.header.presentCount bytes,
      columnAt r.schema (r.header.recordAt bytes k) column =
        columnAt r'.schema (r'.header.recordAt bytes' k) column) :
    AgreeOn column r bytes r' bytes' := by
  obtain ⟨hheader, hschema, hidentity⟩ := eq_of_take_headerLength h h' hhead
  exact ⟨(isOver_of_ofBytes h).1, (isOver_of_ofBytes h').1, hheader, hschema, hidentity, hlength.symm, hcolumn⟩

end AgreeOn

end Table.Reader

namespace Cursor

open Query (Comparison Statement)

variable {r r' : Reader} {bytes bytes' : List UInt8}

def IsOnRecord (c : Cursor Reader) (r : Reader) (bytes : List UInt8) (k : Nat) : Prop :=
  RowSource.rowNumber c.source = k + 1 ∧
    c.current = some (recordRow r.schema (r.header.recordAt bytes k))

/-- A filter sees only its column. Let two tables begin with the same header, be of the same length and agree in
the bytes of the first field that a condition names, in each record that is there. Then a query with this
condition is refused on both alike, or makes cursors that show the same however often they are moved on: the
same results and errors, the same states and row numbers. Each row that is found is of the same record in both. -/
theorem run_next_of_columnAt [Number.DecimalArithmetic] {naming : Reader.Naming} {sql : String} {statement : Statement}
    {q : Comparison}
    (h : Reader.ofBytes naming bytes = .ok r) (h' : Reader.ofBytes naming bytes' = .ok r')
    (hhead : bytes.take r.header.headerLength = bytes'.take r.header.headerLength)
    (hlength : bytes.length = bytes'.length) (hparse : Query.parse sql.toList = .ok statement)
    (hcondition : statement.condition = some q)
    (hcolumn : ∀ k < r.header.presentCount bytes,
      columnAt r.schema (r.header.recordAt bytes k) q.column =
        columnAt r'.schema (r'.header.recordAt bytes' k) q.column)
    (boundary : Boundary) (owners : Nat) :
    r.schema = r'.schema ∧ r.header.recordCount = r'.header.recordCount ∧
      Alike (fun c c' => ∀ n,
          c.run (List.replicate n .next) = c'.run (List.replicate n .next) ∧
          ((c.after (List.replicate n .next)).next.1 = .ok true →
            ∃ k < r.header.presentCount bytes,
              (c.after (List.replicate n .next)).next.2.IsOnRecord r bytes k ∧
              (c'.after (List.replicate n .next)).next.2.IsOnRecord r' bytes' k))
        (ofQuery r sql boundary owners) (ofQuery r' sql boundary owners) := by
  have hagree := Reader.AgreeOn.of_ofBytes h h' hhead hlength hcolumn
  have hsim := hagree.rowSimulation
  have hrespects := hagree.respects
  have hstart : Reader.ReadAlike r bytes r' bytes' r r' :=
    ⟨0, Nat.zero_le _, .inl (Reader.isOver_of_ofBytes h).2, .inl (Reader.isOver_of_ofBytes h').2⟩
  refine ⟨hagree.schema.symm, congrArg Table.Header.recordCount hagree.header.symm, ?_⟩
  refine (hsim.ofQuery hstart hparse boundary owners).imp ?_
  rintro c c' ⟨hc, hresembles⟩ n
  rw [hcondition] at hc
  obtain ⟨hrun, hafter⟩ := hsim.run_next (hc ▸ hrespects) hresembles n
  refine ⟨hrun.symm, fun hfound => ?_⟩
  have hkept : (c.after (List.replicate n .next)).condition = some q :=
    (after_sameQuery _).condition.trans hc
  obtain ⟨-, hnext, hrows⟩ := hsim.next (hkept ▸ hrespects) hafter
  obtain ⟨row, row', hcurrent, hcurrent', k, hk, hnumber, rfl, rfl⟩ := hrows hfound
  have hnumber' := congrArg View.rowNumber (hsim.view_eq hnext)
  exact ⟨k, hk, ⟨hnumber, hcurrent⟩, hnumber'.trans hnumber, hcurrent'⟩

/-- A table of two columns of one character, with the same in the second column of both records. -/
def pairTable (second : UInt8) : List UInt8 :=
  Table.Layout.bytes ⟨3, (124, 2, 29), 3, [⟨[0x41], 0x43, 1, 0⟩, ⟨[0x42], 0x43, 1, 0⟩],
    [⟨false, [[0x78], [second]]⟩, ⟨false, [[0x79], [second]]⟩]⟩

def pairReader (second : UInt8) : Reader where
  header := ⟨3, Date.of? 2024 2 29, 2, 97, 3, 3⟩
  schema := ⟨"t", [⟨"A", .character, 1, 0⟩, ⟨"B", .character, 1, 0⟩], .page .windows1252⟩
  origin := .languageDriver
  identity := "t"
  body := [0x20, 0x78, second, 0x20, 0x79, second, 0x1A]
  rest := [0x20, 0x78, second, 0x20, 0x79, second, 0x1A]
  rowNumber := 0
  deleted := false

def pairCursor (second : UInt8) : Cursor Reader where
  source := pairReader second
  sql := "SELECT * FROM t WHERE A = 'y'"
  condition := some ⟨"A", .eq, .string "y"⟩
  boundary := .includeLast
  phase := .beforeFirst
  current := none
  wasNull := false
  closed := false
  owners := []

theorem run_next_of_columnAt_pairTable :
    Reader.ofBytes ⟨"t", "t", none, none⟩ (pairTable 0x31) = .ok (pairReader 0x31) ∧
      Reader.ofBytes ⟨"t", "t", none, none⟩ (pairTable 0x32) = .ok (pairReader 0x32) ∧
      ofQuery (pairReader 0x31) "SELECT * FROM t WHERE A = 'y'" .includeLast 0 = .ok (pairCursor 0x31) ∧
      ofQuery (pairReader 0x32) "SELECT * FROM t WHERE A = 'y'" .includeLast 0 = .ok (pairCursor 0x32) ∧
      (pairCursor 0x31).run [.next, .next] = (pairCursor 0x32).run [.next, .next] ∧
      (pairCursor 0x31).next.1 = .ok true ∧
      (pairCursor 0x31).next.2.IsOnRecord (pairReader 0x31) (pairTable 0x31) 1 ∧
      (pairCursor 0x32).next.2.IsOnRecord (pairReader 0x32) (pairTable 0x32) 1 := by
  have h : Reader.ofBytes ⟨"t", "t", none, none⟩ (pairTable 0x31) = .ok (pairReader 0x31) := by
    decide +kernel
  have h' : Reader.ofBytes ⟨"t", "t", none, none⟩ (pairTable 0x32) = .ok (pairReader 0x32) := by
    decide +kernel
  have hparse : Query.parse "SELECT * FROM t WHERE A = 'y'".toList =
      .ok ⟨.all, "t", some ⟨"A", .eq, .string "y"⟩⟩ := by
    decide +kernel
  have hcolumn : ∀ k < (pairReader 0x31).header.presentCount (pairTable 0x31),
      columnAt (pairReader 0x31).schema ((pairReader 0x31).header.recordAt (pairTable 0x31) k) "A" =
        columnAt (pairReader 0x32).schema ((pairReader 0x32).header.recordAt (pairTable 0x32) k) "A" := by
    decide +kernel
  have hprepare (second : UInt8) : Query.prepare "SELECT * FROM t WHERE A = 'y'" (pairReader second).schema =
      .ok ⟨.all, "t", some ⟨"A", .eq, .string "y"⟩⟩ := by
    rw [Query.prepare, hparse]
    rfl
  have hcursor (second : UInt8) : ofQuery (pairReader second) "SELECT * FROM t WHERE A = 'y'" .includeLast 0 =
      .ok (pairCursor second) :=
    ofQuery_eq_ok_iff.mpr ⟨_, hprepare second, rfl⟩
  have hfound : (pairCursor 0x31).next.1 = .ok true := by decide +kernel
  have hnumber : RowSource.rowNumber (pairCursor 0x31).next.2.source = 2 := by decide +kernel
  obtain ⟨-, -, hcursors⟩ := run_next_of_columnAt h h' (by decide +kernel) (by decide +kernel) hparse rfl
    hcolumn .includeLast 0
  rw [hcursor, hcursor] at hcursors
  cases hcursors with
  | ok hsame =>
    obtain ⟨k, -, hon, hon'⟩ := (hsame 0).2 hfound
    obtain rfl : k = 1 := Nat.succ.inj (hon.1.symm.trans hnumber)
    exact ⟨h, h', hcursor _, hcursor _, (hsame 2).1, hfound, hon, hon'⟩

end Cursor

end Xbase
