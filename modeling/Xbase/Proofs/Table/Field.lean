import Xbase.Proofs.Row
import Xbase.Proofs.Table.Run
import Xbase.Query.Filter
/-!
# Fields of a record

Each field has its place in a record, behind the deletion flag and the fields before it. The value of a column
depends on the bytes in the place of the first field of its name, and a condition on that value alone.
-/
namespace Xbase

namespace Table

def fieldAt (fields : List Field) (record : List UInt8) (i : Nat) : Option (List UInt8) :=
  fields[i]?.map fun field => slice record (neededLength (fields.take i)) field.length.toNat

/-- The bytes of the first field of a name. -/
def columnAt (schema : Schema) (record : List UInt8) (column : String) : Option (List UInt8) :=
  (schema.position? column).bind (fieldAt schema.fields record)

private theorem fieldSlices_getElem? (fields : List Field) (bytes : List UInt8) (i : Nat) :
    (fieldSlices fields bytes)[i]? =
      fields[i]?.map fun field => slice bytes (fieldBytes (fields.take i)) field.length.toNat := by
  induction fields generalizing bytes i with
  | nil => rfl
  | cons field fields ih =>
    cases i with
    | zero => rfl
    | succ i =>
      rw [fieldSlices, List.getElem?_cons_succ, List.getElem?_cons_succ, ih]
      simp only [slice, List.drop_drop, List.take_succ_cons, fieldBytes]

theorem fieldSlices_tail_getElem? (fields : List Field) (record : List UInt8) (i : Nat) :
    (fieldSlices fields record.tail)[i]? = fieldAt fields record i := by
  rw [fieldSlices_getElem?, fieldAt, ← List.drop_one]
  simp only [slice, List.drop_drop, neededLength]

variable {schema : Schema} {record record' : List UInt8} {column : String}

theorem recordValues_getElem?_congr {fields : List Field} {i : Nat}
    (h : fieldAt fields record i = fieldAt fields record' i) :
    (recordValues fields record)[i]? = (recordValues fields record')[i]? := by
  simp only [recordValues, List.getElem?_zipWith, fieldSlices_tail_getElem?, h]

theorem get_recordRow_congr (h : columnAt schema record column = columnAt schema record' column) :
    (recordRow schema record).get column = (recordRow schema record').get column := by
  cases hpos : schema.position? column with
  | none =>
    have hmissing (record : List UInt8) :
        (recordRow schema record).get column = .error (.noSuchField column schema.table) := by
      have hrow : (recordRow schema record).schema.position? column = none := hpos
      rw [Row.get, hrow]
      rfl
    rw [hmissing, hmissing]
  | some i =>
    rw [columnAt, columnAt, hpos] at h
    rw [recordRow, recordRow, Row.get_ofValues hpos, Row.get_ofValues hpos,
      recordValues_getElem?_congr h]

end Table

/-- A condition reads nothing of a row but the value of its column. -/
theorem Query.Comparison.holds_congr_row {q : Query.Comparison} {row row' : Row}
    (hschema : row.schema = row'.schema) (h : row.get q.column = row'.get q.column) :
    q.holds row = q.holds row' := by
  simp only [holds, order?, hschema, h]

namespace Table.Reader

variable {naming : Naming} {bytes bytes' : List UInt8} {r r' : Reader}

theorem eq_of_take_headerLength (h : ofBytes naming bytes = .ok r) (h' : ofBytes naming bytes' = .ok r')
    (hhead : bytes.take r.header.headerLength = bytes'.take r.header.headerLength) :
    r'.header = r.header ∧ r'.schema = r.schema ∧ r'.identity = r.identity := by
  obtain ⟨-, hheader, -, hfields, hcharset, htable, hidentity, -⟩ := eq_of_decode (eq_of_ofBytes h)
  obtain ⟨-, hheader', -, hfields', hcharset', htable', hidentity', -⟩ := eq_of_decode (eq_of_ofBytes h')
  have hlength := (Header.eq_of_decode hheader).2.1
  have hfixed : bytes.take fixedLength = bytes'.take fixedLength := by
    have hhead' := congrArg (List.take fixedLength) hhead
    rwa [List.take_take, List.take_take, Nat.min_eq_left (by omega)] at hhead'
  have hsame : r'.header = r.header := by
    rw [hfixed, hheader'] at hheader
    exact Except.ok.inj hheader
  have harea : (bytes'.drop fixedLength).take r.header.descriptorLength =
      (bytes.drop fixedLength).take r.header.descriptorLength := by
    have hhead' := congrArg (List.drop fixedLength) hhead
    rw [List.drop_take, List.drop_take] at hhead'
    exact hhead'.symm
  have hsets : r'.schema.charset = r.schema.charset := by
    rw [hsame, ← hcharset] at hcharset'
    exact congrArg Prod.fst hcharset'
  have hcolumns : r'.schema.fields = r.schema.fields := by
    rw [hsame, hsets, harea, hfields] at hfields'
    exact (Except.ok.inj hfields').symm
  have hschema : r'.schema = r.schema := calc r'.schema
    _ = ⟨r'.schema.table, r'.schema.fields, r'.schema.charset⟩ := rfl
    _ = ⟨r.schema.table, r.schema.fields, r.schema.charset⟩ := by rw [htable', htable, hcolumns, hsets]
  exact ⟨hsame, hschema, hidentity'.trans hidentity.symm⟩

end Table.Reader

end Xbase
