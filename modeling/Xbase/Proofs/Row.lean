import Xbase.Row
/-!
# Columns and their values

A column is found by its name at the first position of that name, and the value of a row is the one at that
position. A row made of given values holds them in order.
-/
namespace Xbase

namespace Schema

variable {schema : Schema} {i : Nat} {field : Field} {name : String}

/-- A name is found at the position where a column has it and no column before has. -/
theorem position?_eq_some_iff :
    schema.position? name = some i ↔
      (∃ field, schema.fields[i]? = some field ∧ field.name = name) ∧
        ∀ k < i, ∀ other, schema.fields[k]? = some other → other.name ≠ name := by
  rw [position?, List.findIdx?_eq_some_iff_getElem]
  constructor
  · rintro ⟨hlt, hname, hbefore⟩
    refine ⟨⟨schema.fields[i], List.getElem?_eq_getElem hlt, of_decide_eq_true hname⟩, ?_⟩
    intro k hk other hother
    obtain ⟨hlen, rfl⟩ := List.getElem?_eq_some_iff.mp hother
    exact of_decide_eq_false (Bool.eq_false_iff.mpr (hbefore k hk))
  · rintro ⟨⟨field, hfield, rfl⟩, hbefore⟩
    obtain ⟨hlt, rfl⟩ := List.getElem?_eq_some_iff.mp hfield
    refine ⟨hlt, decide_eq_true rfl, fun k hk => ?_⟩
    have hne := hbefore k hk _ (List.getElem?_eq_getElem (by omega))
    simpa using hne

theorem exists_position?_eq_some (h : schema.fields[i]? = some field) :
    ∃ j ≤ i, schema.position? field.name = some j := by
  cases hpos : schema.position? field.name with
  | none =>
    have hmem := List.findIdx?_eq_none_iff.mp hpos field (List.mem_of_getElem? h)
    simp at hmem
  | some j =>
    refine ⟨j, Nat.not_lt.mp fun hlt => ?_, rfl⟩
    exact (position?_eq_some_iff.mp hpos).2 i hlt field h rfl

theorem mem_of_field (h : schema.field name = .ok field) : field ∈ schema.fields ∧ field.name = name := by
  unfold Schema.field field? at h
  split at h
  · rename_i found hfound
    obtain rfl := Except.ok.inj h
    have hname := List.find?_some hfound
    exact ⟨List.mem_of_find?_eq_some hfound, of_decide_eq_true hname⟩
  · cases h

def HasColumn (schema : Schema) : ColumnRef → Prop
  | .name name => ∃ field ∈ schema.fields, field.name = name
  | .index i => 1 ≤ i ∧ i ≤ schema.columnCount

def missingColumn (schema : Schema) : ColumnRef → Error
  | .name name => .noSuchField name schema.table
  | .index i => .illegalColumnIndex i schema.columnCount

theorem exists_resolve_eq_ok {column : ColumnRef} (h : schema.HasColumn column) :
    ∃ field, schema.resolve column = .ok field := by
  cases column with
  | name name =>
    obtain ⟨field, hmem, hname⟩ := h
    cases hfind : schema.field? name with
    | some found => exact ⟨found, by rw [resolve, Schema.field, hfind]⟩
    | none => exact absurd (decide_eq_true hname) (List.find?_eq_none.mp hfind field hmem)
  | index i =>
    obtain ⟨hpos, hle⟩ := h
    obtain ⟨k, rfl⟩ : ∃ k, i = k + 1 := ⟨i - 1, by omega⟩
    have hget : schema.fields[k]? = some schema.fields[k] := List.getElem?_eq_getElem hle
    exact ⟨_, by rw [resolve, fieldAt, fieldAt?, hget]⟩

theorem resolve_of_not_hasColumn {column : ColumnRef} (h : ¬ schema.HasColumn column) :
    schema.resolve column = .error (schema.missingColumn column) := by
  cases column with
  | name name =>
    have hnone : schema.field? name = none :=
      List.find?_eq_none.mpr fun field hmem hname => h ⟨field, hmem, of_decide_eq_true hname⟩
    rw [resolve, Schema.field, hnone]
    rfl
  | index i =>
    have hnone : schema.fieldAt? i = none := by
      cases i with
      | zero => rfl
      | succ k =>
        have hle : schema.fields.length ≤ k := Nat.not_lt.mp fun hlt => h ⟨Nat.succ_pos k, hlt⟩
        exact List.getElem?_eq_none hle
    rw [resolve, fieldAt, hnone]
    rfl

theorem mem_of_resolve {column : ColumnRef} (h : schema.resolve column = .ok field) :
    field ∈ schema.fields := by
  cases column with
  | name name => exact (mem_of_field h).1
  | index i =>
    change schema.fieldAt i = .ok field at h
    unfold fieldAt at h
    split at h
    · rename_i found hfound
      obtain rfl := Except.ok.inj h
      cases i with
      | zero => cases hfound
      | succ k => exact List.mem_of_getElem? hfound
    · cases h

end Schema

namespace Row

theorem exists_get_eq_ok {row : Row} {field : Field} {name : String}
    (h : row.schema.field name = .ok field) : ∃ value, row.get name = .ok value := by
  obtain ⟨hmem, hname⟩ := Schema.mem_of_field h
  obtain ⟨i, hi, hfield⟩ := List.mem_iff_getElem.mp hmem
  obtain ⟨j, -, hpos⟩ := Schema.exists_position?_eq_some (List.getElem?_eq_some_iff.mpr ⟨hi, hfield⟩)
  rw [hname] at hpos
  exact ⟨_, by rw [get, hpos]⟩

theorem ofValues_values (row : Row) : Row.ofValues row.schema row.values = row := by
  obtain ⟨schema, values, hlen⟩ := row
  simp only [ofValues, mk.injEq, true_and]
  rw [← hlen, List.take_left]

variable {schema : Schema} {values : List Value} {i : Nat} {name : String}

theorem values_ofValues_getElem? (h : i < schema.columnCount) :
    (ofValues schema values).values[i]? = some (values[i]?.getD none) := by
  change ((values ++ List.replicate schema.columnCount none).take schema.columnCount)[i]? = _
  rw [List.getElem?_take_of_lt h]
  by_cases hi : i < values.length
  · rw [List.getElem?_append_left hi, List.getElem?_eq_getElem hi]
    rfl
  · have hlen := Nat.not_lt.mp hi
    rw [List.getElem?_append_right hlen, List.getElem?_eq_none hlen, List.getElem?_replicate,
      if_pos (by omega)]
    rfl

theorem get_ofValues (h : schema.position? name = some i) :
    (ofValues schema values).get name = .ok (values[i]?.getD none) := by
  obtain ⟨field, hfield, -⟩ := (Schema.position?_eq_some_iff.mp h).1
  have hi : i < schema.columnCount := (List.getElem?_eq_some_iff.mp hfield).1
  have hpos : (ofValues schema values).schema.position? name = some i := h
  rw [get, hpos]
  simp only [values_ofValues_getElem? hi, Option.getD_some]

end Row

end Xbase
