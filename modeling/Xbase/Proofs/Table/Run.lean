import Mathlib.Data.List.DropRight
import Xbase.Proofs.Table.Header
import Xbase.Proofs.Table.Reader
/-!
# Runs of a reader

A reader hands out the records that are completely there, in the order of the file, each time it is set back.
What a read returns depends on the number of reads since then and on the bytes of the table alone. A record
that is not completely there takes what is left of the bytes, so the place in the bytes is tied to the number
of records read only as long as every read succeeds.
-/
namespace Xbase.Table

namespace Header

variable {header : Header} {bytes : List UInt8} {k : Nat}

/-- The number of records that are completely there. -/
def presentCount (header : Header) (bytes : List UInt8) : Nat :=
  min header.recordCount ((bytes.length - header.headerLength) / header.recordLength)

def recordAt (header : Header) (bytes : List UInt8) (k : Nat) : List UInt8 :=
  slice bytes (header.headerLength + k * header.recordLength) header.recordLength

/-- Whether the record before a place between records is marked as deleted. -/
def deletedBefore (header : Header) (bytes : List UInt8) : Nat → Bool
  | 0 => false
  | k + 1 => isDeletedRecord (header.recordAt bytes k)

theorem presentCount_le : header.presentCount bytes ≤ header.recordCount := Nat.min_le_left _ _

private theorem recordLength_le_of_lt (hlength : 0 < header.recordLength) (hk : k < header.presentCount bytes) :
    header.recordLength ≤ (bytes.drop (header.headerLength + k * header.recordLength)).length := by
  have hdiv : k + 1 ≤ (bytes.length - header.headerLength) / header.recordLength :=
    Nat.lt_of_lt_of_le hk (Nat.min_le_right _ _)
  have hmul := (Nat.le_div_iff_mul_le hlength).mp hdiv
  rw [Nat.succ_mul] at hmul
  rw [List.length_drop]
  omega

private theorem length_lt_recordLength (hlength : 0 < header.recordLength)
    (hshort : header.presentCount bytes < header.recordCount) :
    (bytes.drop (header.headerLength + header.presentCount bytes * header.recordLength)).length <
      header.recordLength := by
  have hdiv : header.presentCount bytes = (bytes.length - header.headerLength) / header.recordLength := by
    rw [presentCount] at hshort ⊢
    omega
  have hlt := Nat.lt_mul_div_succ (bytes.length - header.headerLength) hlength
  rw [← hdiv, Nat.mul_add, Nat.mul_one, Nat.mul_comm] at hlt
  rw [List.length_drop]
  omega

end Header

def recordRow (schema : Schema) (record : List UInt8) : Row :=
  .ofValues schema (recordValues schema.fields record)

namespace Reader

variable {naming : Naming} {bytes : List UInt8} {r q : Reader} {k : Nat}

inductive Action where
  | read
  | reset
deriving DecidableEq, Repr

def perform (r : Reader) : Action → Reader
  | .read => r.read.2
  | .reset => r.reset

def after (r : Reader) (actions : List Action) : Reader := actions.foldl perform r

/-- The number of reads since a reader was set back last. -/
def readsSinceReset (actions : List Action) : Nat := (actions.rtakeWhile (· = .read)).length

/-- A reader over the bytes of a table: what it goes back to is what follows the header. -/
structure IsOver (r : Reader) (bytes : List UInt8) : Prop where
  body : r.body = bytes.drop r.header.headerLength
  recordLength : 0 < r.header.recordLength
  recordCount : r.header.recordCount < UInt32.size

def behind (r : Reader) (bytes : List UInt8) (k : Nat) : Reader :=
  { r with
    rest := bytes.drop (r.header.headerLength + k * r.header.recordLength)
    rowNumber := k
    deleted := r.header.deletedBefore bytes k }

/-- Whether a reader has read the first `k` records and perhaps failed to read more. -/
def HasRead (r : Reader) (bytes : List UInt8) (k : Nat) (q : Reader) : Prop :=
  q = r.behind bytes k ∨ k = r.header.presentCount bytes ∧ q = { r.behind bytes k with rest := [] }

def endError (r : Reader) (bytes : List UInt8) : Error :=
  if r.header.presentCount bytes = r.header.recordCount then .noResult "" r.identity
  else .invalidFormat r.identity (.truncatedRecord (r.header.presentCount bytes + 1) r.header.recordCount)

theorem isOver_of_ofBytes (h : ofBytes naming bytes = .ok r) :
    r.IsOver bytes ∧ r = r.behind bytes 0 := by
  obtain ⟨-, hheader, -, -, -, -, -, hbody, hrest, hnumber, hdeleted⟩ := eq_of_decode (eq_of_ofBytes h)
  have hlength := (Header.eq_of_decode hheader).2.2
  refine ⟨⟨hbody, by omega, Header.recordCount_lt_of_decode hheader⟩, ?_⟩
  obtain ⟨header, schema, origin, identity, body, rest, rowNumber, deleted⟩ := r
  simp only at hbody hrest hnumber hdeleted
  simp only [behind, Header.deletedBefore, Nat.zero_mul, Nat.add_zero, hrest, hbody, hnumber, hdeleted]

namespace HasRead

theorem header (h : r.HasRead bytes k q) : q.header = r.header := by
  obtain rfl | ⟨-, rfl⟩ := h <;> rfl

theorem schema (h : r.HasRead bytes k q) : q.schema = r.schema := by
  obtain rfl | ⟨-, rfl⟩ := h <;> rfl

theorem identity (h : r.HasRead bytes k q) : q.identity = r.identity := by
  obtain rfl | ⟨-, rfl⟩ := h <;> rfl

theorem rowNumber (h : r.HasRead bytes k q) : q.rowNumber = k := by
  obtain rfl | ⟨-, rfl⟩ := h <;> rfl

theorem deleted (h : r.HasRead bytes k q) : q.deleted = r.header.deletedBefore bytes k := by
  obtain rfl | ⟨-, rfl⟩ := h <;> rfl

theorem reset (hover : r.IsOver bytes) (h : r.HasRead bytes k q) : r.HasRead bytes 0 q.reset := by
  have hzero : q.reset = r.behind bytes 0 := by
    have hbody := hover.body
    obtain rfl | ⟨-, rfl⟩ := h <;>
      simp only [Reader.reset, behind, Header.deletedBefore, Nat.zero_mul, Nat.add_zero, hbody]
  exact .inl hzero

theorem read_of_lt (hover : r.IsOver bytes) (h : r.HasRead bytes k q)
    (hk : k < r.header.presentCount bytes) :
    q.read = (.ok (recordRow r.schema (r.header.recordAt bytes k)), r.behind bytes (k + 1)) := by
  obtain rfl | ⟨rfl, -⟩ := h
  · have hcount : k < r.header.recordCount := Nat.lt_of_lt_of_le hk Header.presentCount_le
    have hwhole := Header.recordLength_le_of_lt hover.recordLength hk
    rw [read_of_whole (r := r.behind bytes k) hcount hwhole]
    simp only [behind, List.drop_drop, Nat.succ_mul, Nat.add_assoc]
    rfl
  · exact absurd hk (Nat.lt_irrefl _)

theorem read_of_eq (hover : r.IsOver bytes) (h : r.HasRead bytes (r.header.presentCount bytes) q) :
    ∃ q', q.read = (.error (r.endError bytes), q') ∧
      r.HasRead bytes (r.header.presentCount bytes) q' := by
  by_cases hall : r.header.presentCount bytes = r.header.recordCount
  · have hspent : q.header.recordCount ≤ q.rowNumber := by
      rw [h.rowNumber, h.header, hall]
    refine ⟨q, ?_, h⟩
    rw [read_of_spent hspent, endError, if_pos hall, h.identity]
  · have hshort : r.header.presentCount bytes < r.header.recordCount :=
      Nat.lt_of_le_of_ne Header.presentCount_le hall
    have hrest : q.rest.length < q.header.recordLength := by
      rw [h.header]
      obtain rfl | ⟨-, rfl⟩ := h
      · exact Header.length_lt_recordLength hover.recordLength hshort
      · exact hover.recordLength
    have hnumber : q.rowNumber < q.header.recordCount := by
      rw [h.rowNumber, h.header]
      exact hshort
    refine ⟨{ q with rest := [] }, ?_, ?_⟩
    · rw [read_of_short hnumber hrest, endError, if_neg hall, h.rowNumber, h.header, h.identity]
    · right
      obtain rfl | ⟨-, rfl⟩ := h <;> exact ⟨rfl, rfl⟩

end HasRead

theorem readsSinceReset_read (actions : List Action) :
    readsSinceReset (actions ++ [.read]) = readsSinceReset actions + 1 := by
  rw [readsSinceReset, List.rtakeWhile_concat_pos _ _ _ (by decide), List.length_append]
  rfl

private theorem readsSinceReset_reset (actions : List Action) : readsSinceReset (actions ++ [.reset]) = 0 := by
  rw [readsSinceReset, List.rtakeWhile_concat_neg _ _ _ (by decide)]
  rfl

theorem readsSinceReset_replicate (n : Nat) : readsSinceReset (List.replicate n .read) = n := by
  induction n with
  | zero => rfl
  | succ n ih => rw [List.replicate_succ', readsSinceReset_read, ih]

private theorem after_concat (r : Reader) (actions : List Action) (action : Action) :
    r.after (actions ++ [action]) = (r.after actions).perform action := by
  rw [after, List.foldl_append]
  rfl

/-- A run has read as many records as it read since the reader was set back last, as far as they are there. -/
theorem hasRead_after (hover : r.IsOver bytes) (hstart : r = r.behind bytes 0) (actions : List Action) :
    r.HasRead bytes (min (readsSinceReset actions) (r.header.presentCount bytes)) (r.after actions) := by
  -- the last action decides how many reads count, so the run is taken apart at its end
  induction actions using List.reverseRecOn with
  | nil =>
    have hnil : readsSinceReset [] = 0 := rfl
    rw [hnil, Nat.zero_min]
    exact .inl hstart
  | append_singleton actions action ih =>
    rw [after_concat]
    cases action with
    | reset =>
      rw [readsSinceReset_reset, Nat.zero_min]
      exact ih.reset hover
    | read =>
      rw [readsSinceReset_read]
      by_cases hlt : readsSinceReset actions < r.header.presentCount bytes
      · rw [Nat.min_eq_left (Nat.le_of_lt hlt)] at ih
        rw [Nat.min_eq_left hlt, perform, ih.read_of_lt hover hlt]
        exact .inl rfl
      · have hle := Nat.not_lt.mp hlt
        rw [Nat.min_eq_right hle] at ih
        rw [Nat.min_eq_right (Nat.le_succ_of_le hle), perform]
        obtain ⟨q', hread, hq'⟩ := ih.read_of_eq hover
        rw [hread]
        exact hq'

/-- A table of two records with one text column, of which the second breaks off behind its flag. -/
def cutTable : List UInt8 :=
  (Layout.bytes ⟨3, (124, 2, 29), 3, [⟨[0x41], 0x43, 1, 0⟩], [⟨true, [[0x78]]⟩, ⟨false, [[0x79]]⟩]⟩).take 68

def cutReader : Reader where
  header := ⟨3, Date.of? 2024 2 29, 2, 65, 2, 3⟩
  schema := ⟨"t", [⟨"A", .character, 1, 0⟩], .page .windows1252⟩
  origin := .languageDriver
  identity := "t"
  body := [0x2A, 0x78, 0x20]
  rest := [0x2A, 0x78, 0x20]
  rowNumber := 0
  deleted := false

theorem ofBytes_cutTable : ofBytes ⟨"t", "t", none, none⟩ cutTable = .ok cutReader := by
  decide +kernel

end Reader

end Xbase.Table
