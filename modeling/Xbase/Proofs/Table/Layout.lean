import Xbase.Proofs.Row
import Xbase.Proofs.Table.Descriptor
import Xbase.Proofs.Table.Run
/-!
# Tables read back

A table that is laid out is read back as it was described: its header, its fields, and its records in order,
each value unless the padding takes something of it along.
-/
namespace Xbase.Table

section Blocks

variable {α : Type} {f : α → List UInt8} {xs : List α} {size : Nat}

private theorem length_flatMap_of_size (h : ∀ x ∈ xs, (f x).length = size) :
    (xs.flatMap f).length = size * xs.length := by
  induction xs with
  | nil => rfl
  | cons x xs ih =>
    rw [List.flatMap_cons, List.length_append, h x List.mem_cons_self,
      ih fun y hy => h y (List.mem_cons_of_mem x hy), List.length_cons, Nat.mul_succ, Nat.add_comm]

private theorem slice_flatMap_of_size (h : ∀ x ∈ xs, (f x).length = size) (rest : List UInt8) {k : Nat} {x : α}
    (hk : xs[k]? = some x) : slice (xs.flatMap f ++ rest) (k * size) size = f x := by
  induction xs generalizing k with
  | nil => cases hk
  | cons y ys ih =>
    have hy := h y List.mem_cons_self
    rw [List.flatMap_cons, List.append_assoc]
    cases k with
    | zero =>
      obtain rfl : y = x := Option.some.inj hk
      rw [Nat.zero_mul, slice, List.drop_zero, List.take_left' hy]
    | succ k =>
      have hdrop (bytes : List UInt8) : (f y ++ bytes).drop ((k + 1) * size) = bytes.drop (k * size) := by
        rw [Nat.succ_mul, Nat.add_comm, ← List.drop_drop, List.drop_left' hy]
      have hrest := ih (fun z hz => h z (List.mem_cons_of_mem y hz)) hk
      rw [slice] at hrest ⊢
      rw [hdrop, hrest]

end Blocks

namespace Layout

variable {t : Layout} {table : String} {explicit : Option Charset}

/-- A table whose lengths have room in a header and whose records have room for their values. -/
@[mk_iff]
structure IsValid (t : Layout) : Prop where
  fields_ne_nil : t.fields ≠ []
  fields : ∀ f ∈ t.fields, f.IsValid
  headerLength_lt : t.headerLength < UInt16.size
  recordLength_lt : t.recordLength < UInt16.size
  recordCount_lt : t.records.length < UInt32.size
  records : ∀ record ∈ t.records, record.Fits t.fields

instance (t : Layout) : Decidable t.IsValid := decidable_of_iff _ (isValid_iff t).symm

def header (t : Layout) : Header where
  version := t.version
  lastUpdate := Date.of? (1900 + t.updated.1.toNat) t.updated.2.1.toNat t.updated.2.2.toNat
  recordCount := t.records.length
  headerLength := t.headerLength
  recordLength := t.recordLength
  languageDriver := t.languageDriver

def charset (t : Layout) (explicit : Option Charset) : Charset :=
  (Charset.resolve explicit none t.languageDriver).1

def schema (t : Layout) (table : String) (explicit : Option Charset) : Schema where
  table := table
  fields := t.fields.map FieldLayout.field
  charset := t.charset explicit

/-- The descriptors and the terminator. -/
private def area (t : Layout) : List UInt8 := t.fields.flatMap FieldLayout.bytes ++ [terminator]

def body (t : Layout) : List UInt8 := t.records.flatMap (RecordLayout.bytes t.fields) ++ [endMark]

def reader (t : Layout) (table : String) (explicit : Option Charset) : Reader where
  header := t.header
  schema := t.schema table explicit
  origin := (Charset.resolve explicit none t.languageDriver).2
  identity := table
  body := t.body
  rest := t.body
  rowNumber := 0
  deleted := false

private theorem recordLength_eq (t : Layout) : t.recordLength = neededLength (t.fields.map FieldLayout.field) := by
  have hsum (n : Nat) : t.fields.foldl (fun n f => n + f.length.toNat) n =
      n + fieldBytes (t.fields.map FieldLayout.field) := by
    induction t.fields generalizing n with
    | nil => rfl
    | cons f fields ih =>
      rw [List.foldl_cons, ih, Nat.add_assoc]
      rfl
  exact hsum 1

private theorem length_fixedBlock (t : Layout) : t.fixedBlock.length = fixedLength := rfl

private theorem bytes_eq (t : Layout) : t.bytes = t.fixedBlock ++ (t.area ++ t.body) := by
  simp only [bytes, area, body, List.append_assoc]

private theorem take_bytes (t : Layout) : t.bytes.take fixedLength = t.fixedBlock := by
  rw [bytes_eq, List.take_left' t.length_fixedBlock]

namespace IsValid

private theorem ofBytes_fixedBlock (h : t.IsValid) : Header.ofBytes t.fixedBlock = t.header := by
  have hcount : littleEndian (littleEndianBytes 4 t.records.length) = t.records.length :=
    littleEndian_littleEndianBytes h.recordCount_lt
  have hheader : littleEndian (littleEndianBytes 2 t.headerLength) = t.headerLength :=
    littleEndian_littleEndianBytes h.headerLength_lt
  have hrecord : littleEndian (littleEndianBytes 2 t.recordLength) = t.recordLength :=
    littleEndian_littleEndianBytes h.recordLength_lt
  rw [header, Header.mk.injEq]
  exact ⟨rfl, rfl, hcount, hheader, hrecord, rfl⟩

private theorem two_le_recordLength (h : t.IsValid) : 2 ≤ t.recordLength := by
  rw [recordLength_eq, neededLength]
  cases hfields : t.fields with
  | nil => exact absurd hfields h.fields_ne_nil
  | cons f fields =>
    have hpos := (h.fields f (hfields ▸ List.mem_cons_self)).length_pos
    have hfirst : fieldBytes ((f :: fields).map FieldLayout.field) =
        f.length.toNat + fieldBytes (fields.map FieldLayout.field) := rfl
    omega

private theorem decode_fixedBlock (h : t.IsValid) : Header.decode t.fixedBlock = .ok t.header := by
  have hheader : ¬ t.header.headerLength < fixedLength + 1 := by
    change ¬ t.headerLength < fixedLength + 1
    rw [headerLength]
    omega
  have hrecord : ¬ t.header.recordLength < 2 := Nat.not_lt.mpr h.two_le_recordLength
  simp only [Header.decode, h.ofBytes_fixedBlock, if_neg hheader, if_neg hrecord]

private theorem decodeDescriptors_area (h : t.IsValid) {charset : Charset} (hcharset : charset.ReadsAscii) :
    decodeDescriptors charset t.recordLength t.area = .ok (t.fields.map FieldLayout.field) := by
  have hne : t.fields.map FieldLayout.field ≠ [] := fun hnil => h.fields_ne_nil (List.map_eq_nil_iff.mp hnil)
  have hlength : ¬ neededLength (t.fields.map FieldLayout.field) ≠ t.recordLength :=
    not_not_intro t.recordLength_eq.symm
  rw [decodeDescriptors, area, descriptorFields_bytes h.fields hcharset]
  simp only [if_neg hne, if_neg hlength]

private theorem headerLength_eq (h : t.IsValid) : t.header.headerLength = fixedLength + t.area.length := by
  have hfields : (t.fields.flatMap FieldLayout.bytes).length = descriptorSize * t.fields.length :=
    length_flatMap_of_size fun f hf => (h.fields f hf).length_bytes
  rw [area, List.length_append, hfields]
  rfl

private theorem length_area (h : t.IsValid) : t.area.length = t.header.descriptorLength := by
  rw [Header.descriptorLength, h.headerLength_eq, Nat.add_sub_cancel_left]

private theorem drop_bytes (h : t.IsValid) : t.bytes.drop t.header.headerLength = t.body := by
  have hfront : (t.fixedBlock ++ t.area).length = t.header.headerLength := by
    rw [List.length_append, t.length_fixedBlock, h.headerLength_eq]
  rw [bytes_eq, ← List.append_assoc, List.drop_left' hfront]

private theorem area_bytes (h : t.IsValid) :
    (t.bytes.drop fixedLength).take t.header.descriptorLength = t.area := by
  rw [bytes_eq, List.drop_left' t.length_fixedBlock, List.take_left' h.length_area]

private theorem ofMemory_bytes (h : t.IsValid) (table : String) (hcharset : (t.charset explicit).ReadsAscii) :
    Reader.ofMemory table explicit t.bytes = .ok (t.reader table explicit) := by
  have hfixed : ¬ t.bytes.length < fixedLength := by
    rw [bytes_eq, List.length_append, t.length_fixedBlock]
    omega
  have hlength : ¬ t.bytes.length < t.header.headerLength := by
    rw [bytes_eq, List.length_append, List.length_append, t.length_fixedBlock, h.headerLength_eq]
    omega
  have hdecode : Reader.decode ⟨table, table, explicit, none⟩ t.bytes = .ok (t.reader table explicit) := by
    rw [Reader.decode, if_neg hfixed, t.take_bytes, h.decode_fixedBlock]
    change (if t.bytes.length < t.header.headerLength then _ else _) = _
    rw [if_neg hlength]
    change Except.bind (decodeDescriptors (t.charset explicit) t.recordLength _) _ = _
    rw [h.area_bytes, h.decodeDescriptors_area hcharset, h.drop_bytes]
    rfl
  rw [Reader.ofMemory, Reader.ofBytes, hdecode]

private theorem length_record (h : t.IsValid) :
    ∀ record ∈ t.records, (record.bytes t.fields).length = t.recordLength := by
  intro record hmem
  rw [(h.records record hmem).length_bytes, t.recordLength_eq]

private theorem recordAt_bytes (h : t.IsValid) {k : Nat} {record : RecordLayout} (hk : t.records[k]? = some record) :
    t.header.recordAt t.bytes k = record.bytes t.fields := by
  rw [Header.recordAt, slice, ← List.drop_drop, h.drop_bytes]
  exact slice_flatMap_of_size h.length_record [endMark] hk

private theorem presentCount_bytes (h : t.IsValid) :
    (t.reader table explicit).header.presentCount t.bytes = t.records.length := by
  have hpos : 0 < t.header.recordLength := Nat.lt_of_lt_of_le Nat.two_pos h.two_le_recordLength
  have hroom : t.records.length ≤ (t.bytes.length - t.header.headerLength) / t.header.recordLength := by
    rw [← List.length_drop, h.drop_bytes, body, List.length_append, length_flatMap_of_size h.length_record,
      Nat.le_div_iff_mul_le hpos, Nat.mul_comm]
    exact Nat.le_add_right _ _
  exact Nat.min_eq_left hroom

private theorem value_recordRow_iff (h : t.IsValid) {k i : Nat} {record : RecordLayout} {f : FieldLayout}
    {value : List UInt8} (hk : t.records[k]? = some record) (hf : t.fields[i]? = some f)
    (hvalue : record.values[i]? = some value) :
    (recordRow (t.schema table explicit) (t.header.recordAt t.bytes k)).values[i]? = some (some value) ↔
      Keeps f.type value := by
  have hrecord := h.records record (List.mem_of_getElem? hk)
  have hpos := (h.fields f (List.mem_of_getElem? hf)).length_pos
  have hi : i < (t.schema table explicit).columnCount := by
    have hlt := (List.getElem?_eq_some_iff.mp hf).1
    rwa [Schema.columnCount, schema, List.length_map]
  have hread : (recordRow (t.schema table explicit) (t.header.recordAt t.bytes k)).values[i]? =
      some (fieldValue f.type (f.pad value)) := by
    rw [recordRow, Row.values_ofValues_getElem? hi, h.recordAt_bytes hk, schema, hrecord.recordValues_bytes,
      List.getElem?_zipWith, hf, hvalue]
    rfl
  rw [hread, Option.some.injEq, FieldLayout.fieldValue_pad_iff hpos (hrecord.length_le hf hvalue)]

private theorem hasRead_replicate (h : t.IsValid) (table : String) (hcharset : (t.charset explicit).ReadsAscii)
    (n : Nat) :
    (t.reader table explicit).IsOver t.bytes ∧
      (t.reader table explicit).HasRead t.bytes (min n t.records.length)
        ((t.reader table explicit).after (List.replicate n .read)) := by
  obtain ⟨hover, hstart⟩ := Reader.isOver_of_ofBytes (h.ofMemory_bytes table hcharset)
  have hread := Reader.hasRead_after hover hstart (List.replicate n .read)
  rw [Reader.readsSinceReset_replicate, h.presentCount_bytes] at hread
  exact ⟨hover, hread⟩

theorem read_end (h : t.IsValid) (hcharset : (t.charset explicit).ReadsAscii) {n : Nat}
    (hn : t.records.length ≤ n) :
    ∃ q, ((t.reader table explicit).after (List.replicate n .read)).read =
      (.error (.noResult "" table), q) := by
  obtain ⟨hover, hread⟩ := h.hasRead_replicate table hcharset n
  have hend : (t.reader table explicit).endError t.bytes = .noResult "" table := if_pos h.presentCount_bytes
  rw [Nat.min_eq_right hn, ← h.presentCount_bytes] at hread
  obtain ⟨q, hq, -⟩ := hread.read_of_eq hover
  rw [hend] at hq
  exact ⟨q, hq⟩

theorem read_record (h : t.IsValid) (hcharset : (t.charset explicit).ReadsAscii) {k : Nat}
    {record : RecordLayout} (hk : t.records[k]? = some record) :
    ∃ q, ((t.reader table explicit).after (List.replicate k .read)).read =
        (.ok (recordRow (t.schema table explicit) (t.header.recordAt t.bytes k)), q) ∧
      q.rowNumber = k + 1 ∧ q.deleted = record.deleted := by
  obtain ⟨hover, hread⟩ := h.hasRead_replicate table hcharset k
  have hlt := (List.getElem?_eq_some_iff.mp hk).1
  have hdeleted : isDeletedRecord (t.header.recordAt t.bytes k) = record.deleted := by
    rw [h.recordAt_bytes hk, RecordLayout.isDeletedRecord_bytes]
  rw [Nat.min_eq_left (Nat.le_of_lt hlt)] at hread
  rw [← h.presentCount_bytes] at hlt
  exact ⟨_, hread.read_of_lt hover hlt, rfl, hdeleted⟩

end IsValid

/-- A table that is laid out is read in the character set of its language driver, or in a chosen one that reads
ASCII as it is. The header and the columns are the ones described. The records come in order with their deletion
flags, and then no more. A value comes back if and only if it loses nothing with the padding. -/
theorem read_bytes (h : t.IsValid) (hexplicit : ∀ charset ∈ explicit, charset.ReadsAscii) (table : String) :
    ∃ r, Reader.ofMemory table explicit t.bytes = .ok r ∧ r.header = t.header ∧
      r.schema = t.schema table explicit ∧
      (∀ (k : Nat) (record : RecordLayout), t.records[k]? = some record →
        ∃ row q, (r.after (List.replicate k .read)).read = (.ok row, q) ∧ q.rowNumber = k + 1 ∧
          q.deleted = record.deleted ∧
          ∀ (i : Nat) (f : FieldLayout) (value : List UInt8),
            t.fields[i]? = some f → record.values[i]? = some value →
            (row.values[i]? = some (some value) ↔ Keeps f.type value)) ∧
      ∀ n, t.records.length ≤ n →
        ∃ q, (r.after (List.replicate n .read)).read = (.error (.noResult "" table), q) := by
  have hcharset : (t.charset explicit).ReadsAscii := Charset.readsAscii_resolve hexplicit t.languageDriver
  refine ⟨t.reader table explicit, h.ofMemory_bytes table hcharset, rfl, rfl, fun k record hk => ?_,
    fun n hn => h.read_end hcharset hn⟩
  obtain ⟨q, hread, hnumber, hdeleted⟩ := h.read_record hcharset hk
  exact ⟨_, q, hread, hnumber, hdeleted, fun i f value => h.value_recordRow_iff hk⟩

/-- A table of names and prices, with a name that begins with a blank in a deleted record. -/
def priceTable : Layout where
  version := 3
  updated := (124, 2, 30)
  languageDriver := 3
  fields := [⟨[0x41, 0x0D, 0x42], 0x63, 3, 0⟩, ⟨[0x50], 0x4E, 4, 1⟩]
  records := [⟨false, [[], [0x2E, 0x35]]⟩, ⟨true, [[0x20, 0x78], [0x20, 0x35]]⟩]

theorem read_bytes_priceTable :
    priceTable.IsValid ∧ ∃ r, Reader.ofMemory "t" none priceTable.bytes = .ok r ∧
      r.header.recordCount = 2 ∧ r.header.lastUpdate = none ∧
      r.schema.fields = [⟨"A\rB", .character, 3, 0⟩, ⟨"P", .numeric, 4, 1⟩] ∧
      ∃ row q, (r.after [.read]).read = (.ok row, q) ∧ q.deleted = true ∧
        row.values[0]? = some (some [0x20, 0x78]) ∧ row.values[1]? ≠ some (some [0x20, 0x35]) := by
  have hvalid : priceTable.IsValid := by decide
  obtain ⟨r, hmade, hheader, hschema, hrecords, -⟩ :=
    read_bytes hvalid (fun charset (h : charset ∈ none) => absurd h (Option.not_mem_none _)) "t"
  obtain ⟨row, q, hread, -, hdeleted, hvalues⟩ := hrecords 1 _ rfl
  have hname := (hvalues 0 _ _ rfl rfl).mpr (by decide)
  have hprice := mt (hvalues 1 _ _ rfl rfl).mp (by decide)
  refine ⟨hvalid, r, hmade, ?_, ?_, ?_, row, q, hread, hdeleted, hname, hprice⟩
  · rw [hheader]
    rfl
  · rw [hheader]
    decide
  · rw [hschema]
    decide

end Layout

end Xbase.Table
