import Mathlib.Data.List.Forall2
import Xbase.Proofs.Charset.Ascii
import Xbase.Proofs.Text
import Xbase.Table.Layout
/-!
# Values in a record

A value stands in its field with blanks on one side, in front of a number and behind anything else. It comes
back from its field if and only if no padding of its own is lost with them. The fields of a record follow each
other without a gap, so each of them is cut out as it was put in.
-/
namespace Xbase.Table

/-- Whether a value of the given type comes back from a field. Text must not end in padding. Any other value
must not begin in padding either, and an empty one and a truth value that is a question mark are absent. -/
def Keeps (type : FieldType) (value : List UInt8) : Prop :=
  value.getLast?.any isPadding = false ∧
    (type ≠ .character →
      value ≠ [] ∧ value.head?.any isPadding = false ∧ ¬ (type = .logical ∧ value = [0x3F]))

instance (type : FieldType) (value : List UInt8) : Decidable (Keeps type value) :=
  inferInstanceAs (Decidable (_ ∧ (_ → _)))

theorem fieldValue_character_eq_some_iff {bytes value : List UInt8} :
    fieldValue .character bytes = some value ↔ (∃ b ∈ bytes, b ≠ 0) ∧ trimEnd bytes = value := by
  have hwritten : ¬ bytes.all (· = 0) = true ↔ ∃ b ∈ bytes, b ≠ 0 := by
    simp only [List.all_eq_true, decide_eq_true_eq, not_forall, exists_prop, ne_eq]
  rw [fieldValue, ← hwritten]
  split
  · rename_i hall
    exact iff_of_false nofun fun h => h.1 hall
  · rename_i hnot
    rw [Option.some.injEq]
    exact (and_iff_right hnot).symm

theorem fieldValue_of_ne_character {type : FieldType} (h : type ≠ .character) (bytes : List UInt8) :
    fieldValue type bytes =
      if Text.trimBoth isPadding bytes = [] ∨
          (type = .logical ∧ Text.trimBoth isPadding bytes = [0x3F]) then none
      else some (Text.trimBoth isPadding bytes) := by
  cases type with
  | character => exact absurd rfl h
  | _ => rfl

theorem fieldValue_eq_some_iff {type : FieldType} (h : type ≠ .character) {bytes value : List UInt8} :
    fieldValue type bytes = some value ↔
      Text.trimBoth isPadding bytes = value ∧ value ≠ [] ∧ ¬ (type = .logical ∧ value = [0x3F]) := by
  rw [fieldValue_of_ne_character h, ← not_or]
  split
  · rename_i habsent
    refine iff_of_false nofun ?_
    rintro ⟨rfl, hpresent⟩
    exact hpresent habsent
  · rename_i hpresent
    rw [Option.some.injEq]
    refine (and_iff_left_of_imp ?_).symm
    rintro rfl
    exact hpresent

private theorem isPadding_of_mem_blanks {n : Nat} : ∀ b ∈ List.replicate n (0x20 : UInt8), isPadding b = true := by
  intro b hb
  rw [List.eq_of_mem_replicate hb]
  rfl

namespace FieldLayout

variable {f : FieldLayout} {value : List UInt8}

def type (f : FieldLayout) : FieldType := .ofCode f.code

theorem pad_cases (h : value.length ≤ f.length.toNat) :
    f.pad value = value ++ List.replicate (f.length.toNat - value.length) 0x20 ∨
      (f.type ≠ .character ∧
        f.pad value = List.replicate (f.length.toNat - value.length) 0x20 ++ value) := by
  rw [pad, List.take_of_length_le h]
  by_cases hnumber : f.code = 0x4E ∨ f.code = 0x46
  · have htype : f.type ≠ .character := by
      obtain hcode | hcode := hnumber <;> rw [type, hcode] <;> decide
    exact .inr ⟨htype, if_pos hnumber⟩
  · exact .inl (if_neg hnumber)

theorem length_pad (h : value.length ≤ f.length.toNat) : (f.pad value).length = f.length.toNat := by
  obtain hpad | ⟨-, hpad⟩ := pad_cases h <;>
    rw [hpad, List.length_append, List.length_replicate] <;> omega

private theorem trimBoth_pad (h : value.length ≤ f.length.toNat) :
    Text.trimBoth isPadding (f.pad value) = Text.trimBoth isPadding value := by
  obtain hpad | ⟨-, hpad⟩ := pad_cases h <;> rw [hpad]
  · exact Text.trimBoth_append_right isPadding_of_mem_blanks
  · exact Text.trimBoth_append_left isPadding_of_mem_blanks

private theorem exists_mem_pad_ne_zero (hpos : 0 < f.length.toNat) (h : value.length ≤ f.length.toNat)
    (hend : value.getLast?.any isPadding = false) : ∃ b ∈ f.pad value, b ≠ 0 := by
  have hmem : ∀ b, b ∈ value ∨ b ∈ List.replicate (f.length.toNat - value.length) 0x20 →
      b ∈ f.pad value := by
    intro b hb
    obtain hpad | ⟨-, hpad⟩ := pad_cases h <;> rw [hpad, List.mem_append]
    · exact hb
    · exact hb.symm
  cases hlast : value.getLast? with
  | none =>
    obtain rfl := List.getLast?_eq_none_iff.mp hlast
    exact ⟨0x20, hmem _ (.inr (List.mem_replicate.mpr ⟨Nat.ne_of_gt hpos, rfl⟩)), by decide⟩
  | some b =>
    refine ⟨b, hmem b (.inl (List.mem_of_getLast? hlast)), ?_⟩
    rintro rfl
    rw [hlast] at hend
    exact absurd hend (by decide)

private theorem trimEnd_pad (htype : f.type = .character) (h : value.length ≤ f.length.toNat) :
    trimEnd (f.pad value) = trimEnd value := by
  obtain hpad | ⟨hne, -⟩ := pad_cases h
  · rw [hpad]
    exact Text.rdropWhile_append_of_pos isPadding_of_mem_blanks
  · exact absurd htype hne

/-- A value comes back from its field if and only if it loses nothing with the padding. -/
theorem fieldValue_pad_iff (hpos : 0 < f.length.toNat) (h : value.length ≤ f.length.toNat) :
    fieldValue f.type (f.pad value) = some value ↔ Keeps f.type value := by
  by_cases htype : f.type = .character
  · have hkeeps : Keeps f.type value ↔ value.getLast?.any isPadding = false :=
      and_iff_left fun hne => absurd htype hne
    have htrim : trimEnd (f.pad value) = value ↔ value.getLast?.any isPadding = false := by
      rw [trimEnd_pad htype h]
      exact Text.rdropWhile_eq_self_iff
    rw [hkeeps, htype, fieldValue_character_eq_some_iff, htrim]
    exact and_iff_right_of_imp (exists_mem_pad_ne_zero hpos h)
  · rw [fieldValue_eq_some_iff htype, trimBoth_pad h, Text.trimBoth_eq_self_iff, Keeps,
      forall_prop_of_true htype]
    tauto

def field (f : FieldLayout) : Field where
  name := String.ofList (Charset.asciiText f.name)
  type := f.type
  length := f.length
  decimals := f.decimals

end FieldLayout

/-- Pieces of the widths of the fields. -/
def Tiles (fields : List Field) (pieces : List (List UInt8)) : Prop :=
  List.Forall₂ (fun field piece => piece.length = field.length.toNat) fields pieces

private theorem Tiles.fieldSlices_flatten {fields : List Field} {pieces : List (List UInt8)}
    (h : Tiles fields pieces) : fieldSlices fields pieces.flatten = pieces := by
  induction h with
  | nil => rfl
  | cons hpiece _ ih =>
    rw [fieldSlices, List.flatten_cons, List.take_left' hpiece, List.drop_left' hpiece, ih]

private theorem Tiles.length_flatten {fields : List Field} {pieces : List (List UInt8)} (h : Tiles fields pieces) :
    pieces.flatten.length = fieldBytes fields := by
  induction h with
  | nil => rfl
  | cons hpiece _ ih => rw [List.flatten_cons, List.length_append, hpiece, ih, fieldBytes]

namespace RecordLayout

variable {fields : List FieldLayout} {r : RecordLayout}

/-- A record with a value for each field, none of them longer than its field. -/
def Fits (fields : List FieldLayout) (r : RecordLayout) : Prop :=
  List.Forall₂ (fun f value => value.length ≤ f.length.toNat) fields r.values

instance (fields : List FieldLayout) (r : RecordLayout) : Decidable (r.Fits fields) :=
  inferInstanceAs (Decidable (List.Forall₂ _ _ _))

theorem Fits.length_le (h : r.Fits fields) {i : Nat} {f : FieldLayout} {value : List UInt8}
    (hf : fields[i]? = some f) (hvalue : r.values[i]? = some value) : value.length ≤ f.length.toNat := by
  obtain ⟨hi, rfl⟩ := List.getElem?_eq_some_iff.mp hf
  obtain ⟨hi', rfl⟩ := List.getElem?_eq_some_iff.mp hvalue
  exact List.Forall₂.get h hi hi'

theorem Fits.tiles (h : r.Fits fields) :
    Tiles (fields.map FieldLayout.field) (List.zipWith FieldLayout.pad fields r.values) := by
  rw [Fits] at h
  generalize r.values = values at h
  induction h with
  | nil => exact .nil
  | cons hvalue _ ih => exact .cons (FieldLayout.length_pad hvalue) ih

theorem Fits.length_bytes (h : r.Fits fields) :
    (r.bytes fields).length = neededLength (fields.map FieldLayout.field) := by
  rw [bytes, List.length_cons, h.tiles.length_flatten, neededLength, Nat.add_comm]

theorem Fits.recordValues_bytes (h : r.Fits fields) :
    recordValues (fields.map FieldLayout.field) (r.bytes fields) =
      List.zipWith (fun f value => fieldValue f.type (f.pad value)) fields r.values := by
  rw [recordValues, bytes, List.tail_cons, h.tiles.fieldSlices_flatten, List.zipWith_map_left]
  rw [Fits] at h
  generalize r.values = values at h
  induction h with
  | nil => rfl
  | cons _ _ ih => exact congrArg (_ :: ·) ih

theorem isDeletedRecord_bytes : isDeletedRecord (r.bytes fields) = r.deleted := by
  rw [bytes]
  cases r.deleted <;> rfl

end RecordLayout

end Xbase.Table
