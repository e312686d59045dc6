import Mathlib.Tactic.MkIffOfInductiveProp
import Xbase.Proofs.Table.Record
/-!
# Descriptors of fields

A descriptor is read back as the field it was laid out for, if its name is one that the removal of white space
and the search for a NUL leave alone. The descriptors follow each other until a terminator stands where the
next one would begin, and no name begins like it.
-/
namespace Xbase.Table

variable {charset : Charset}

theorem descriptorFields_terminator (charset : Charset) (position : Nat) (rest : List UInt8) :
    descriptorFields charset position (terminator :: rest) = .ok [] := by
  rw [descriptorFields, if_pos rfl]

/-- A descriptor that does not begin like the terminator is read, and then what follows it. -/
theorem descriptorFields_block {position : Nat} {block rest : List UInt8} (hlength : block.length = descriptorSize)
    (hhead : block.head? ≠ some terminator) :
    descriptorFields charset position (block ++ rest) =
      match descriptorField? charset block with
      | none => .error (.unnamedField position)
      | some field =>
        match descriptorFields charset (position + 1) rest with
        | .ok fields => .ok (field :: fields)
        | .error fault => .error fault := by
  cases block with
  | nil => cases hlength
  | cons b block =>
    have hb : b ≠ terminator := fun h => hhead (congrArg some h)
    have hroom : ¬ (block ++ rest).length + 1 < descriptorSize := by
      rw [List.length_append]
      rw [List.length_cons] at hlength
      omega
    have htake : (b :: (block ++ rest)).take descriptorSize = b :: block := List.take_left' hlength
    have hdrop : (block ++ rest).drop (descriptorSize - 1) = rest :=
      List.drop_left' (Nat.succ.inj hlength)
    rewrite [List.cons_append, descriptorFields, if_neg hb, if_neg hroom, htake, hdrop]
    rfl

theorem descriptorFields_append {position : Nat} {block rest : List UInt8} {field : Field}
    {fields : List Field} (hlength : block.length = descriptorSize) (hhead : block.head? ≠ some terminator)
    (hfield : descriptorField? charset block = some field)
    (hrest : descriptorFields charset (position + 1) rest = .ok fields) :
    descriptorFields charset position (block ++ rest) = .ok (field :: fields) := by
  rw [descriptorFields_block hlength hhead, hfield]
  simp only [hrest]

theorem length_padEnd {width : Nat} {fill : UInt8} {bytes : List UInt8} (h : bytes.length ≤ width) :
    (padEnd width fill bytes).length = width := by
  rw [padEnd, List.length_append, List.length_replicate]
  omega

private theorem byteAt_append {front rest : List UInt8} {n : Nat} (h : front.length = n) (i : Nat) :
    byteAt (front ++ rest) (n + i) = byteAt rest i := by
  rw [byteAt, ← h, List.getElem?_append_right (Nat.le_add_right _ _), Nat.add_sub_cancel_left, byteAt]

namespace FieldLayout

variable {f : FieldLayout}

/-- A field whose name has room in a descriptor, holds nothing but ASCII, and neither holds a NUL nor begins
nor ends with white space. The field has a width. -/
@[mk_iff]
structure IsValid (f : FieldLayout) : Prop where
  name_ne_nil : f.name ≠ []
  length_name_le : f.name.length ≤ maxNameLength
  isAscii_name : f.name.all Charset.isAscii = true
  zero_notMem_name : 0 ∉ f.name
  head_not_blank : f.name.head?.any (Text.isBlank ∘ Charset.asciiChar) = false
  last_not_blank : f.name.getLast?.any (Text.isBlank ∘ Charset.asciiChar) = false
  length_pos : 0 < f.length.toNat

instance (f : FieldLayout) : Decidable f.IsValid := decidable_of_iff _ (isValid_iff f).symm

namespace IsValid

theorem bytes_eq (h : f.IsValid) :
    f.bytes = padEnd maxNameLength 0 f.name ++
      ([f.code, 0, 0, 0, 0, f.length, f.decimals] ++ List.replicate 14 0) := by
  rw [bytes, padEnd, List.length_append, length_padEnd h.length_name_le, List.append_assoc]
  rfl

theorem length_bytes (h : f.IsValid) : f.bytes.length = descriptorSize := by
  rw [h.bytes_eq, List.length_append, length_padEnd h.length_name_le]
  rfl

private theorem head_bytes_ne (h : f.IsValid) : f.bytes.head? ≠ some terminator := by
  intro hhead
  have hname : f.name.head? = some terminator := by
    rw [h.bytes_eq, padEnd, List.append_assoc, List.head?_append_of_ne_nil _ h.name_ne_nil] at hhead
    exact hhead
  have hblank := h.head_not_blank
  rw [hname] at hblank
  exact absurd hblank (by decide)

private theorem descriptorName_bytes (h : f.IsValid) (hcharset : charset.ReadsAscii) :
    descriptorName charset f.bytes = Charset.asciiText f.name := by
  have hname : (f.bytes.take maxNameLength).takeWhile (· ≠ 0) = f.name := by
    have hall : ∀ b ∈ f.name, decide (b ≠ 0) = true := fun b hb =>
      decide_eq_true (ne_of_mem_of_not_mem hb h.zero_notMem_name)
    rw [h.bytes_eq, List.take_left' (length_padEnd h.length_name_le), padEnd,
      List.takeWhile_append_of_pos hall, List.takeWhile_replicate]
    exact List.append_nil _
  rw [descriptorName, hname, hcharset f.name (List.all_eq_true.mp h.isAscii_name), Text.trim,
    Text.trimBoth_eq_self_iff, Charset.asciiText, List.head?_map, List.getLast?_map, Option.any_map,
    Option.any_map]
  exact ⟨h.head_not_blank, h.last_not_blank⟩

private theorem descriptorField_bytes (h : f.IsValid) (hcharset : charset.ReadsAscii) :
    descriptorField? charset f.bytes = some f.field := by
  have hbyte (i : Nat) : byteAt f.bytes (maxNameLength + i) =
      byteAt ([f.code, 0, 0, 0, 0, f.length, f.decimals] ++ List.replicate 14 0) i := by
    rw [h.bytes_eq]
    exact byteAt_append (length_padEnd h.length_name_le) i
  have hcode : byteAt f.bytes 11 = f.code := hbyte 0
  have hwidth : byteAt f.bytes 16 = f.length := hbyte 5
  have hdecimals : byteAt f.bytes 17 = f.decimals := hbyte 6
  rw [descriptorField?, h.descriptorName_bytes hcharset, hcode, hwidth, hdecimals]
  cases hname : Charset.asciiText f.name with
  | nil => exact absurd (List.map_eq_nil_iff.mp hname) h.name_ne_nil
  | cons c name => simp only [field, type, hname]

end IsValid

end FieldLayout

/-- The descriptors of fields and a terminator are read back as the fields. -/
theorem descriptorFields_bytes {fields : List FieldLayout} (h : ∀ f ∈ fields, f.IsValid)
    (hcharset : charset.ReadsAscii) (position : Nat) :
    descriptorFields charset position (fields.flatMap FieldLayout.bytes ++ [terminator]) =
      .ok (fields.map FieldLayout.field) := by
  induction fields generalizing position with
  | nil => exact descriptorFields_terminator charset position []
  | cons f fields ih =>
    have hf := h f List.mem_cons_self
    have hrest := ih (fun f' hf' => h f' (List.mem_cons_of_mem f hf')) (position + 1)
    rw [List.flatMap_cons, List.append_assoc]
    exact descriptorFields_append hf.length_bytes hf.head_bytes_ne (hf.descriptorField_bytes hcharset) hrest

end Xbase.Table
