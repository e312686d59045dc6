import Xbase.Proofs.Table.DescriptorArea
import Xbase.Proofs.Table.Field
/-!
# The fields of a record side by side

The fields of a table that is accepted fill a record from the byte behind its deletion flag to its end, without a
gap and without sharing a byte. So no byte of a record is asked for where there is none, and what stands in the
bytes of one field, or in the flag, says nothing of another field.
-/
namespace Xbase.Table

structure Span where
  start : Nat
  length : Nat
deriving DecidableEq, Repr

namespace Span

def stop (span : Span) : Nat := span.start + span.length

def bytes? (record : List UInt8) (span : Span) : Option (List UInt8) := slice? record span.start span.length

def bytes (record : List UInt8) (span : Span) : List UInt8 := slice record span.start span.length

end Span

def spansFrom : Nat → List Field → List Span
  | _, [] => []
  | offset, field :: fields =>
    ⟨offset, field.length.toNat⟩ :: spansFrom (offset + field.length.toNat) fields

/-- Spans that follow each other without a gap from `start` to `stop`, one of the declared width for each field. -/
inductive Tiling : Nat → Nat → List Field → List Span → Prop
  | nil (place : Nat) : Tiling place place [] []
  | cons {start stop : Nat} {field : Field} {fields : List Field} {spans : List Span} :
    Tiling (start + field.length.toNat) stop fields spans →
      Tiling start stop (field :: fields) (⟨start, field.length.toNat⟩ :: spans)

variable {fields : List Field} {spans : List Span} {record record' : List UInt8} {start stop offset i j : Nat}
  {span other : Span}

private theorem tiling_spansFrom (offset : Nat) (fields : List Field) :
    Tiling offset (offset + fieldBytes fields) fields (spansFrom offset fields) := by
  induction fields generalizing offset with
  | nil => exact .nil offset
  | cons field fields ih =>
    rw [fieldBytes, ← Nat.add_assoc]
    exact .cons (ih _)

namespace Tiling

theorem start_le_stop (h : Tiling start stop fields spans) : start ≤ stop := by
  induction h with
  | nil => exact Nat.le_refl _
  | cons _ ih => omega

theorem bounds (h : Tiling start stop fields spans) (hspan : span ∈ spans) :
    start ≤ span.start ∧ span.stop ≤ stop := by
  induction h with
  | nil => cases hspan
  | cons htail ih =>
    rcases List.mem_cons.mp hspan with rfl | hspan
    · exact ⟨Nat.le_refl _, htail.start_le_stop⟩
    · have hbounds := ih hspan
      omega

private theorem length_spans (h : Tiling start stop fields spans) : spans.length = fields.length := by
  induction h with
  | nil => rfl
  | cons _ ih => simp [ih]

private theorem stop_le_start (h : Tiling start stop fields spans) (hi : spans[i]? = some span)
    (hj : spans[j]? = some other) (hlt : i < j) : span.stop ≤ other.start := by
  induction h generalizing i j with
  | nil => cases hi
  | cons htail ih =>
    cases j with
    | zero => omega
    | succ j =>
      rw [List.getElem?_cons_succ] at hj
      cases i with
      | zero =>
        obtain rfl := Option.some.inj hi
        exact (htail.bounds (List.mem_of_getElem? hj)).1
      | succ i => exact ih hi hj (Nat.lt_of_succ_lt_succ hlt)

theorem apart (h : Tiling start stop fields spans) (hi : spans[i]? = some span) (hj : spans[j]? = some other)
    (hne : j ≠ i) : other.stop ≤ span.start ∨ span.stop ≤ other.start := by
  rcases Nat.lt_or_gt_of_ne hne with hlt | hgt
  · exact .inl (h.stop_le_start hj hi hlt)
  · exact .inr (h.stop_le_start hi hj hgt)

end Tiling

private theorem fieldSlices_drop (fields : List Field) (record : List UInt8) (offset : Nat) :
    fieldSlices fields (record.drop offset) = (spansFrom offset fields).map (Span.bytes record) := by
  induction fields generalizing offset with
  | nil => rfl
  | cons field fields ih =>
    rw [fieldSlices, List.drop_drop, ih]
    rfl

private theorem mapM_bytes? (h : Tiling start stop fields spans) (hstop : stop ≤ record.length) :
    spans.mapM (Span.bytes? record) = some (spans.map (Span.bytes record)) := by
  induction h with
  | nil => rfl
  | cons htail ih =>
    have hfirst := slice?_eq (Nat.le_trans htail.start_le_stop hstop)
    simp only [List.mapM_cons, Span.bytes?, hfirst, Option.bind_eq_bind, Option.bind_some]
    rw [ih hstop]
    rfl

private theorem flatten_fieldSlices {bytes : List UInt8} (h : bytes.length = fieldBytes fields) :
    (fieldSlices fields bytes).flatten = bytes := by
  induction fields generalizing bytes with
  | nil => exact (List.length_eq_zero_iff.mp h).symm
  | cons field fields ih =>
    rw [fieldBytes] at h
    have hrest : (bytes.drop field.length.toNat).length = fieldBytes fields := by
      rw [List.length_drop, h, Nat.add_sub_cancel_left]
    rw [fieldSlices, List.flatten_cons, ih hrest, List.take_append_drop]

private theorem length_recordValues (fields : List Field) (record : List UInt8) :
    (recordValues fields record).length = fields.length := by
  rw [recordValues, ← List.drop_one, fieldSlices_drop, List.length_zipWith, List.length_map,
    (tiling_spansFrom 1 fields).length_spans, Nat.min_self]

private theorem fieldAt_eq_bytes (fields : List Field) (record : List UInt8) (i : Nat) :
    fieldAt fields record i = (spansFrom 1 fields)[i]?.map (Span.bytes record) := by
  rw [← fieldSlices_tail_getElem?, ← List.drop_one, fieldSlices_drop, List.getElem?_map]

private theorem Span.bytes_congr (h : ∀ k, span.start ≤ k → k < span.stop → record'[k]? = record[k]?) :
    span.bytes record' = span.bytes record := by
  apply List.ext_getElem?
  intro k
  simp only [Span.bytes, slice, List.getElem?_take, List.getElem?_drop]
  split
  · rename_i hk
    exact h _ (Nat.le_add_right _ _) (Nat.add_lt_add_left hk _)
  · rfl

private theorem recordValues_getElem?_of_span
    (h : ∀ span, (spansFrom 1 fields)[j]? = some span →
      ∀ k, span.start ≤ k → k < span.stop → record'[k]? = record[k]?) :
    (recordValues fields record')[j]? = (recordValues fields record)[j]? := by
  apply recordValues_getElem?_congr
  rw [fieldAt_eq_bytes, fieldAt_eq_bytes]
  cases hspan : (spansFrom 1 fields)[j]? with
  | none => rfl
  | some span => exact congrArg some (Span.bytes_congr (h span hspan))

namespace Reader

variable {naming : Naming} {bytes : List UInt8} {r : Reader}

private theorem neededLength_of_ofBytes (h : ofBytes naming bytes = .ok r) :
    neededLength r.schema.fields = r.header.recordLength := by
  obtain ⟨-, -, -, hfields, -⟩ := eq_of_decode (eq_of_ofBytes h)
  exact (decodeDescriptors_eq_ok_iff.mp hfields).2.2

/-- The fields of a table that is accepted tile its records: their spans follow each other from the byte behind
the flag to the end of the record, each as long as its field is declared. In every record the bytes of all spans
are there, they are together all bytes but the flag, and each column has one value, which is read from the bytes in
its span. Other bytes in the span of one field and another flag leave the values of all other fields as they are. -/
theorem spans_tile (h : ofBytes naming bytes = .ok r) :
    Tiling 1 r.header.recordLength r.schema.fields (spansFrom 1 r.schema.fields) ∧
      ∀ record : List UInt8, record.length = r.header.recordLength →
        (∃ pieces, (spansFrom 1 r.schema.fields).mapM (Span.bytes? record) = some pieces ∧
          pieces.flatten = record.tail ∧
          recordValues r.schema.fields record =
            List.zipWith (fun field piece => fieldValue field.type piece) r.schema.fields pieces) ∧
        (recordValues r.schema.fields record).length = r.schema.columnCount ∧
        (∀ record' : List UInt8, (∀ k, k ≠ 0 → record'[k]? = record[k]?) →
          recordValues r.schema.fields record' = recordValues r.schema.fields record) ∧
        ∀ (record' : List UInt8) (i : Nat) (span : Span), (spansFrom 1 r.schema.fields)[i]? = some span →
          (∀ k, k ≠ 0 → k < span.start ∨ span.stop ≤ k → record'[k]? = record[k]?) →
            ∀ j, j ≠ i →
              (recordValues r.schema.fields record')[j]? = (recordValues r.schema.fields record)[j]? := by
  have htiling : Tiling 1 r.header.recordLength r.schema.fields (spansFrom 1 r.schema.fields) := by
    rw [← neededLength_of_ofBytes h, neededLength]
    exact tiling_spansFrom 1 r.schema.fields
  have hflag {span : Span} {j k : Nat} (hspan : (spansFrom 1 r.schema.fields)[j]? = some span)
      (hk : span.start ≤ k) : k ≠ 0 := by
    have hstart := (htiling.bounds (List.mem_of_getElem? hspan)).1
    omega
  refine ⟨htiling, fun record hlength => ⟨⟨fieldSlices r.schema.fields record.tail, ?_, ?_, rfl⟩,
    length_recordValues _ record, ?_, ?_⟩⟩
  · rw [mapM_bytes? htiling (Nat.le_of_eq hlength.symm), ← List.drop_one, fieldSlices_drop]
  · apply flatten_fieldSlices
    rw [List.length_tail, hlength, ← neededLength_of_ofBytes h, neededLength, Nat.add_sub_cancel_left]
  · intro record' hsame
    apply List.ext_getElem?
    intro j
    exact recordValues_getElem?_of_span fun span hspan k hstart _ => hsame k (hflag hspan hstart)
  · intro record' i span hi hsame j hne
    refine recordValues_getElem?_of_span fun other hj k hstart hstop => hsame k (hflag hj hstart) ?_
    have hapart := htiling.apart hi hj hne
    omega

/-- A table of one record with three columns, of which the second takes no bytes. -/
def emptyColumnTable : List UInt8 :=
  Layout.bytes ⟨3, (124, 2, 29), 3, [⟨[0x41], 0x43, 2, 0⟩, ⟨[0x42], 0x4E, 0, 0⟩, ⟨[0x43], 0x4E, 3, 0⟩],
    [⟨false, [[0x78], [], [0x34, 0x32]]⟩]⟩

def emptyColumnReader : Reader where
  header := ⟨3, Date.of? 2024 2 29, 1, 129, 6, 3⟩
  schema := ⟨"t", [⟨"A", .character, 2, 0⟩, ⟨"B", .numeric, 0, 0⟩, ⟨"C", .numeric, 3, 0⟩], .page .windows1252⟩
  origin := .languageDriver
  identity := "t"
  body := [0x20, 0x78, 0x20, 0x20, 0x34, 0x32, 0x1A]
  rest := [0x20, 0x78, 0x20, 0x20, 0x34, 0x32, 0x1A]
  rowNumber := 0
  deleted := false

theorem spans_tile_emptyColumn :
    ofBytes ⟨"t", "t", none, none⟩ emptyColumnTable = .ok emptyColumnReader ∧
      Tiling 1 6 emptyColumnReader.schema.fields [⟨1, 2⟩, ⟨3, 0⟩, ⟨3, 3⟩] ∧
      (∃ pieces,
        ([⟨1, 2⟩, ⟨3, 0⟩, ⟨3, 3⟩] : List Span).mapM (Span.bytes? [0x20, 0x78, 0x20, 0x20, 0x34, 0x32]) =
          some pieces ∧ pieces.flatten = [0x78, 0x20, 0x20, 0x34, 0x32]) ∧
      recordValues emptyColumnReader.schema.fields [0x2A, 0x78, 0x20, 0x20, 0x34, 0x32] =
        [some [0x78], none, some [0x34, 0x32]] ∧
      (recordValues emptyColumnReader.schema.fields [0x2A, 0x79, 0x7A, 0x20, 0x34, 0x32])[2]? =
        some (some [0x34, 0x32]) := by
  have hread : ofBytes ⟨"t", "t", none, none⟩ emptyColumnTable = .ok emptyColumnReader := by decide +kernel
  obtain ⟨htiling, hrecord⟩ := spans_tile hread
  obtain ⟨⟨pieces, hpieces, hjoined, -⟩, -, hflag, hother⟩ := hrecord [0x20, 0x78, 0x20, 0x20, 0x34, 0x32] rfl
  have hkept (k : Nat) (hk : k ≠ 0) (hspan : k < 1 ∨ 3 ≤ k) :
      ([0x2A, 0x79, 0x7A, 0x20, 0x34, 0x32] : List UInt8)[k]? =
        ([0x20, 0x78, 0x20, 0x20, 0x34, 0x32] : List UInt8)[k]? := by
    obtain ⟨m, rfl⟩ : ∃ m, k = m + 3 := ⟨k - 3, by omega⟩
    rfl
  refine ⟨hread, htiling, ⟨pieces, hpieces, hjoined⟩, ?_, ?_⟩
  · rw [hflag]
    · decide
    · intro k hk
      obtain ⟨k, rfl⟩ := Nat.exists_eq_succ_of_ne_zero hk
      rfl
  · rw [hother _ 0 ⟨1, 2⟩ rfl hkept 2 (by decide)]
    decide

end Reader

end Xbase.Table
