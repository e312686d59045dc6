import Xbase.Proofs.Source
import Xbase.Table.Reader
/-!
# Readers of tables

What making a reader requires of the bytes, what reading does at the end of the table, in a record that is not
completely there and in a whole record, and the rows up to the end.
-/
namespace Xbase.Table

namespace Reader

/-- The bytes of a reader have a whole header, whose descriptors make up its fields, and it stands on the
first record. -/
theorem eq_of_decode {naming : Naming} {bytes : List UInt8} {r : Reader}
    (h : decode naming bytes = .ok r) :
    fixedLength ≤ bytes.length ∧ Header.decode (bytes.take fixedLength) = .ok r.header ∧
      r.header.headerLength ≤ bytes.length ∧
      decodeDescriptors r.schema.charset r.header.recordLength
        ((bytes.drop fixedLength).take r.header.descriptorLength) = .ok r.schema.fields ∧
      (r.schema.charset, r.origin) =
        Charset.resolve naming.explicit naming.codePageFile r.header.languageDriver ∧
      r.schema.table = naming.table ∧ r.identity = naming.identity ∧
      r.body = bytes.drop r.header.headerLength ∧ r.rest = r.body ∧ r.rowNumber = 0 ∧
      r.deleted = false := by
  unfold decode at h
  generalize hresolve : Charset.resolve naming.explicit naming.codePageFile = resolve at h
  split at h
  · cases h
  rename_i hfixed
  cases hheader : Header.decode (bytes.take fixedLength) with
  | error fault => rw [hheader] at h; cases h
  | ok header =>
    rw [hheader] at h
    change (if bytes.length < header.headerLength then _ else _) = _ at h
    split at h
    · cases h
    rename_i hlength
    cases hfields : decodeDescriptors (resolve header.languageDriver).1 header.recordLength
        ((bytes.drop fixedLength).take header.descriptorLength) with
    | error fault =>
      change Except.bind (decodeDescriptors _ _ _) _ = _ at h
      rw [hfields] at h
      cases h
    | ok fields =>
      change Except.bind (decodeDescriptors _ _ _) _ = _ at h
      rw [hfields] at h
      obtain rfl := Except.ok.inj h
      exact ⟨Nat.not_lt.mp hfixed, rfl, Nat.not_lt.mp hlength, hfields, rfl, rfl, rfl, rfl, rfl, rfl, rfl⟩

theorem eq_of_ofBytes {naming : Naming} {bytes : List UInt8} {r : Reader}
    (h : ofBytes naming bytes = .ok r) : decode naming bytes = .ok r := by
  unfold ofBytes at h
  split at h
  · rename_i hdecode
    rw [hdecode, Except.ok.inj h]
  · cases h

theorem eq_of_ofMemory {table : String} {explicit : Option Charset} {bytes : List UInt8} {r : Reader}
    (h : ofMemory table explicit bytes = .ok r) :
    decode ⟨table, table, explicit, none⟩ bytes = .ok r := eq_of_ofBytes h

/-- The character set that was found for a table can be chosen as well, and makes the same reader of the bytes but
for where the character set comes from. -/
theorem decode_of_charset {naming : Naming} {bytes : List UInt8} {r : Reader} (h : decode naming bytes = .ok r) :
    decode { naming with explicit := some r.schema.charset, codePageFile := none } bytes =
      .ok { r with origin := .explicit } := by
  obtain ⟨hfixed, hheader, hlength, hfields, -, htable, hidentity, hbody, hrest, hnumber, hdeleted⟩ :=
    eq_of_decode h
  have hnotShort : ¬ bytes.length < fixedLength := Nat.not_lt.mpr hfixed
  have hnotCut : ¬ bytes.length < r.header.headerLength := Nat.not_lt.mpr hlength
  have hbytes : decode { naming with explicit := some r.schema.charset, codePageFile := none } bytes =
      .ok ⟨r.header, ⟨naming.table, r.schema.fields, r.schema.charset⟩, .explicit, naming.identity,
        bytes.drop r.header.headerLength, bytes.drop r.header.headerLength, 0, false⟩ := by
    unfold decode
    simp only [Charset.resolve, if_neg hnotShort, hheader]
    change (if bytes.length < r.header.headerLength then _ else Except.bind (decodeDescriptors _ _ _) _) = _
    rw [if_neg hnotCut, hfields]
    rfl
  rw [hbytes, ← htable, ← hidentity, ← hbody, hrest, hnumber, hdeleted]

variable {r : Reader}

theorem read_of_spent (h : r.header.recordCount ≤ r.rowNumber) :
    r.read = (.error (.noResult "" r.identity), r) := by
  rw [read, if_pos h]

theorem read_of_short (h : r.rowNumber < r.header.recordCount)
    (hshort : r.rest.length < r.header.recordLength) :
    r.read =
      (.error (.invalidFormat r.identity (.truncatedRecord (r.rowNumber + 1) r.header.recordCount)),
        { r with rest := [] }) := by
  rw [read, if_neg (Nat.not_le.mpr h), if_pos hshort]

theorem read_of_whole (h : r.rowNumber < r.header.recordCount)
    (hwhole : r.header.recordLength ≤ r.rest.length) :
    r.read =
      (.ok (.ofValues r.schema (recordValues r.schema.fields (r.rest.take r.header.recordLength))),
        { r with
          rest := r.rest.drop r.header.recordLength
          rowNumber := r.rowNumber + 1
          deleted := isDeletedRecord (r.rest.take r.header.recordLength) }) := by
  rw [read, if_neg (Nat.not_le.mpr h), if_neg (Nat.not_lt.mpr hwhole)]

theorem read_withOrigin (r : Reader) (origin : Charset.Origin) :
    read { r with origin := origin } = (r.read.1, { r.read.2 with origin := origin }) := by
  by_cases hspent : r.header.recordCount ≤ r.rowNumber
  · rw [read_of_spent hspent]
    exact read_of_spent hspent
  have hlt := Nat.not_le.mp hspent
  by_cases hshort : r.rest.length < r.header.recordLength
  · rw [read_of_short hlt hshort]
    exact read_of_short hlt hshort
  have hwhole := Nat.not_lt.mp hshort
  rw [read_of_whole hlt hwhole]
  exact read_of_whole hlt hwhole

theorem eq_of_read {row : Row} {r' : Reader} (h : r.read = (.ok row, r')) :
    r.rowNumber < r.header.recordCount ∧ r.header.recordLength ≤ r.rest.length ∧
      row = .ofValues r.schema (recordValues r.schema.fields (r.rest.take r.header.recordLength)) ∧
      r' = { r with
        rest := r.rest.drop r.header.recordLength
        rowNumber := r.rowNumber + 1
        deleted := isDeletedRecord (r.rest.take r.header.recordLength) } := by
  by_cases hspent : r.header.recordCount ≤ r.rowNumber
  · rw [read_of_spent hspent] at h
    cases h
  have hlt := Nat.not_le.mp hspent
  by_cases hshort : r.rest.length < r.header.recordLength
  · rw [read_of_short hlt hshort] at h
    cases h
  have hwhole := Nat.not_lt.mp hshort
  rw [read_of_whole hlt hwhole] at h
  cases h
  exact ⟨hlt, hwhole, rfl, rfl⟩

instance : LawfulRowSource Reader where
  sameTable_read r := by
    change RowSource.SameTable r.read.2 r
    unfold Reader.read
    split
    · exact RowSource.SameTable.refl r
    · split <;> exact ⟨rfl, rfl, rfl⟩

instance : CountingRowSource Reader where
  rowNumber_of_ok {r r' row} h := by
    obtain ⟨-, -, -, rfl⟩ := eq_of_read h
    rfl
  rowNumber_of_error {r r' e} h := by
    change r.read = _ at h
    unfold Reader.read at h
    split at h
    · cases h
      rfl
    · split at h
      · cases h
        rfl
      · cases h

instance : TypedRowSource Reader where
  schema_of_read {r r' row} h := by
    obtain ⟨-, -, rfl, -⟩ := eq_of_read h
    rfl
  not_lacksField_read r := by
    rintro ⟨column, table, h⟩
    change r.read.1 = _ at h
    unfold Reader.read at h
    split at h
    · cases h
    · split at h <;> cases h

def rows (r : Reader) : List Row :=
  match _h : r.read with
  | (.ok row, r') => row :: r'.rows
  | (.error _, _) => []
termination_by r.header.recordCount - r.rowNumber
decreasing_by
  obtain ⟨hlt, -, -, rfl⟩ := eq_of_read _h
  simp only
  omega

theorem rows_of_ok {row : Row} {r' : Reader} (h : r.read = (.ok row, r')) : r.rows = row :: r'.rows := by
  rw [rows]
  split <;> simp_all

theorem rows_of_error {e : Error} {r' : Reader} (h : r.read = (.error e, r')) : r.rows = [] := by
  rw [rows]
  split <;> simp_all

theorem schema_of_mem_rows {row : Row} (h : row ∈ r.rows) : row.schema = r.schema := by
  induction r using rows.induct with
  | case1 r row' r' hread ih =>
    rw [rows_of_ok hread] at h
    obtain ⟨-, -, hrow, hr'⟩ := eq_of_read hread
    rcases List.mem_cons.mp h with rfl | h
    · rw [hrow]
      rfl
    · rw [ih h, hr']
  | case2 r e r' hread =>
    rw [rows_of_error hread] at h
    cases h

/-- Whether the records that have not been read are completely there. -/
def IsWhole (r : Reader) : Prop :=
  (r.header.recordCount - r.rowNumber) * r.header.recordLength ≤ r.rest.length

theorem isWhole_iff_of_lt (hlt : r.rowNumber < r.header.recordCount) :
    r.IsWhole ↔
      (r.header.recordCount - (r.rowNumber + 1)) * r.header.recordLength + r.header.recordLength ≤
        r.rest.length := by
  have hsub : r.header.recordCount - r.rowNumber = r.header.recordCount - (r.rowNumber + 1) + 1 := by
    omega
  rw [IsWhole, hsub, Nat.succ_mul]

theorem IsWhole.recordLength_le (h : r.IsWhole) (hlt : r.rowNumber < r.header.recordCount) :
    r.header.recordLength ≤ r.rest.length := by
  have hrest := (isWhole_iff_of_lt hlt).mp h
  omega

theorem IsWhole.read (h : r.IsWhole) : r.read.2.IsWhole := by
  by_cases hspent : r.header.recordCount ≤ r.rowNumber
  · rw [read_of_spent hspent]
    exact h
  have hlt := Nat.not_le.mp hspent
  have hrest := (isWhole_iff_of_lt hlt).mp h
  rw [read_of_whole hlt (h.recordLength_le hlt)]
  simp only [IsWhole, List.length_drop]
  omega

theorem IsWhole.length_rows (h : r.IsWhole) : r.rows.length = r.header.recordCount - r.rowNumber := by
  induction r using rows.induct with
  | case1 r row r' hread ih =>
    have hwhole := h.read
    rw [hread] at hwhole
    rw [rows_of_ok hread, List.length_cons, ih hwhole]
    obtain ⟨hlt, -, -, rfl⟩ := eq_of_read hread
    simp only
    omega
  | case2 r e r' hread =>
    have hspent : r.header.recordCount ≤ r.rowNumber := Nat.not_lt.mp fun hlt => by
      rw [read_of_whole hlt (h.recordLength_le hlt)] at hread
      cases hread
    rw [rows_of_error hread, Nat.sub_eq_zero_of_le hspent]
    rfl

end Reader

end Xbase.Table
