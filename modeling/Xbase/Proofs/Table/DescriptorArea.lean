import Mathlib.Algebra.GroupWithZero.Nat
import Xbase.Proofs.Table.Descriptor
/-!
# The area of the descriptors

Bytes are the descriptors of a table exactly if the first terminator in the place of a descriptor stands behind
at least one, each of them has a name, and their widths make up a record. Nothing else in the bytes matters, and
no byte is asked for beyond their end.
-/
namespace Xbase.Table

variable {charset : Charset} {bytes block rest : List UInt8} {fields : List Field} {position k : Nat}

private theorem descriptorFields_short (hlength : bytes.length < descriptorSize)
    (hhead : bytes.head? ≠ some terminator) :
    descriptorFields charset position bytes = .error .unterminatedDescriptors := by
  cases bytes with
  | nil => rw [descriptorFields]
  | cons b bytes =>
    have hb : b ≠ terminator := fun h => hhead (congrArg some h)
    rw [List.length_cons] at hlength
    rw [descriptorFields, if_neg hb, if_pos hlength]

/-- Bytes begin with a terminator or with a descriptor, or they are too few for either. -/
@[elab_as_elim]
theorem inductionOnDescriptors {motive : List UInt8 → Prop} (bytes : List UInt8)
    (ended : ∀ rest, motive (terminator :: rest))
    (short : ∀ bytes, bytes.length < descriptorSize → bytes.head? ≠ some terminator → motive bytes)
    (block : ∀ block rest, block.length = descriptorSize → block.head? ≠ some terminator → motive rest →
      motive (block ++ rest)) : motive bytes := by
  induction hn : bytes.length using Nat.strong_induction_on generalizing bytes with
  | _ n ih =>
    by_cases hhead : bytes.head? = some terminator
    · obtain ⟨rest, rfl⟩ := List.head?_eq_some_iff.mp hhead
      exact ended rest
    by_cases hshort : bytes.length < descriptorSize
    · exact short bytes hshort hhead
    have hlength : (bytes.take descriptorSize).length = descriptorSize :=
      List.length_take_of_le (Nat.not_lt.mp hshort)
    have hfirst : (bytes.take descriptorSize).head? ≠ some terminator := by
      rwa [List.head?_take, if_neg (by decide)]
    have hrest : (bytes.drop descriptorSize).length < n := by
      rw [List.length_drop, hn]
      rw [hn] at hshort
      unfold descriptorSize at *
      omega
    rw [← List.take_append_drop descriptorSize bytes]
    exact block _ _ hlength hfirst (ih _ hrest _ rfl)

def declaredField (charset : Charset) (block : List UInt8) : Field where
  name := String.ofList (descriptorName charset block)
  type := .ofCode (byteAt block 11)
  length := byteAt block 16
  decimals := byteAt block 17

private theorem descriptorField?_eq (charset : Charset) (block : List UInt8) :
    descriptorField? charset block =
      if descriptorName charset block = [] then none else some (declaredField charset block) := by
  unfold descriptorField?
  cases h : descriptorName charset block with
  | nil => rfl
  | cons c name => rw [if_neg nofun, declaredField, h]

/-- The descriptor in a place, counted from 0. -/
def descriptorAt (bytes : List UInt8) (j : Nat) : List UInt8 := slice bytes (descriptorSize * j) descriptorSize

def declaredFields (charset : Charset) (bytes : List UInt8) (k : Nat) : List Field :=
  (List.range k).map fun j => declaredField charset (descriptorAt bytes j)

/-- The first terminator in the place of a descriptor stands behind `k` descriptors. -/
structure EndsAfter (bytes : List UInt8) (k : Nat) : Prop where
  terminated : bytes[descriptorSize * k]? = some terminator
  not_before : ∀ j < k, bytes[descriptorSize * j]? ≠ some terminator

section Append

variable (hlength : block.length = descriptorSize)

include hlength

private theorem getElem?_append_block (j : Nat) :
    (block ++ rest)[descriptorSize * (j + 1)]? = rest[descriptorSize * j]? := by
  rw [Nat.mul_succ, Nat.add_comm, List.getElem?_append_right (by omega), hlength, Nat.add_sub_cancel_left]

private theorem descriptorAt_append_zero : descriptorAt (block ++ rest) 0 = block := List.take_left' hlength

private theorem descriptorAt_append_succ (j : Nat) : descriptorAt (block ++ rest) (j + 1) = descriptorAt rest j := by
  have hdrop : (block ++ rest).drop (descriptorSize * (j + 1)) = rest.drop (descriptorSize * j) := by
    rw [Nat.mul_succ, Nat.add_comm, ← List.drop_drop, List.drop_left' hlength]
  rw [descriptorAt, slice, hdrop, descriptorAt, slice]

private theorem declaredFields_append :
    declaredFields charset (block ++ rest) (k + 1) =
      declaredField charset block :: declaredFields charset rest k := by
  rw [declaredFields, List.range_succ_eq_map, List.map_cons, List.map_map, descriptorAt_append_zero hlength]
  congr 1
  exact List.map_congr_left fun j _ => congrArg (declaredField charset) (descriptorAt_append_succ hlength j)

private theorem named_append_iff :
    (∀ j < k + 1, descriptorName charset (descriptorAt (block ++ rest) j) ≠ []) ↔
      descriptorName charset block ≠ [] ∧ ∀ j < k, descriptorName charset (descriptorAt rest j) ≠ [] := by
  simp only [Nat.forall_lt_succ_left, descriptorAt_append_zero hlength, descriptorAt_append_succ hlength]

private theorem endsAfter_append_iff :
    EndsAfter (block ++ rest) (k + 1) ↔ block.head? ≠ some terminator ∧ EndsAfter rest k := by
  have hhead : (block ++ rest)[descriptorSize * 0]? = block.head? := by
    cases block with
    | nil => cases hlength
    | cons b block => rfl
  constructor
  · intro h
    obtain ⟨hend, hnot⟩ := h
    simp only [Nat.forall_lt_succ_left, getElem?_append_block hlength, hhead] at hend hnot
    exact ⟨hnot.1, hend, hnot.2⟩
  · intro h
    obtain ⟨hfirst, hend, hnot⟩ := h
    constructor
    · rw [getElem?_append_block hlength, hend]
    · simp only [Nat.forall_lt_succ_left, getElem?_append_block hlength, hhead]
      exact ⟨hfirst, hnot⟩

end Append

private theorem endsAfter_terminator (rest : List UInt8) : EndsAfter (terminator :: rest) 0 := ⟨rfl, nofun⟩

namespace EndsAfter

theorem lt_length (h : EndsAfter bytes k) : descriptorSize * k < bytes.length :=
  (List.getElem?_eq_some_iff.mp h.terminated).1

private theorem exists_append (h : EndsAfter bytes (k + 1)) :
    ∃ block rest, bytes = block ++ rest ∧ block.length = descriptorSize ∧ block.head? ≠ some terminator ∧
      EndsAfter rest k := by
  have hlength : (bytes.take descriptorSize).length = descriptorSize := by
    have hlt := h.lt_length
    rw [Nat.mul_succ] at hlt
    exact List.length_take_of_le (by omega)
  rw [← List.take_append_drop descriptorSize bytes] at h
  obtain ⟨hhead, hrest⟩ := (endsAfter_append_iff hlength).mp h
  exact ⟨_, _, (List.take_append_drop descriptorSize bytes).symm, hlength, hhead, hrest⟩

private theorem exists_cons (h : EndsAfter bytes 0) : ∃ rest, bytes = terminator :: rest := by
  cases bytes with
  | nil => cases h.terminated
  | cons b rest => exact ⟨rest, congrArg (· :: rest) (Option.some.inj h.terminated)⟩

private theorem descriptorFields_take (h : EndsAfter bytes k) (rest : List UInt8) :
    descriptorFields charset position (bytes.take (descriptorSize * k + 1) ++ rest) =
      descriptorFields charset position bytes := by
  induction k generalizing bytes position with
  | zero =>
    obtain ⟨behind, rfl⟩ := h.exists_cons
    exact (descriptorFields_terminator _ _ _).trans (descriptorFields_terminator _ _ _).symm
  | succ k ih =>
    obtain ⟨block, behind, rfl, hlength, hhead, hbehind⟩ := h.exists_append
    have htake : (block ++ behind).take (descriptorSize * (k + 1) + 1) =
        block ++ behind.take (descriptorSize * k + 1) := by
      rw [List.take_append, List.take_of_length_le (by rw [hlength, Nat.mul_succ]; omega), hlength,
        Nat.mul_succ, Nat.add_right_comm, Nat.add_sub_cancel]
    rw [htake, List.append_assoc, descriptorFields_block hlength hhead, descriptorFields_block hlength hhead,
      ih hbehind]

end EndsAfter

/-- Descriptors are read if they end and each of them has a name. -/
theorem descriptorFields_eq_ok_iff :
    descriptorFields charset position bytes = .ok fields ↔
      ∃ k, EndsAfter bytes k ∧ (∀ j < k, descriptorName charset (descriptorAt bytes j) ≠ []) ∧
        fields = declaredFields charset bytes k := by
  constructor
  · intro h
    induction bytes using inductionOnDescriptors generalizing position fields with
    | ended rest =>
      rw [descriptorFields_terminator] at h
      obtain rfl := Except.ok.inj h
      exact ⟨0, endsAfter_terminator rest, nofun, rfl⟩
    | short bytes hlength hhead =>
      rw [descriptorFields_short hlength hhead] at h
      cases h
    | block block rest hlength hhead ih =>
      rw [descriptorFields_block hlength hhead, descriptorField?_eq] at h
      by_cases hname : descriptorName charset block = []
      · rw [if_pos hname] at h
        cases h
      rw [if_neg hname] at h
      cases hrest : descriptorFields charset (position + 1) rest with
      | error fault =>
        rw [hrest] at h
        cases h
      | ok others =>
        rw [hrest] at h
        obtain ⟨k, hends, hnamed, rfl⟩ := ih hrest
        refine ⟨k + 1, (endsAfter_append_iff hlength).mpr ⟨hhead, hends⟩,
          (named_append_iff hlength).mpr ⟨hname, hnamed⟩, ?_⟩
        rw [declaredFields_append hlength]
        exact (Except.ok.inj h).symm
  · intro h
    obtain ⟨k, hends, hnamed, rfl⟩ := h
    induction k generalizing bytes position with
    | zero =>
      obtain ⟨rest, rfl⟩ := hends.exists_cons
      exact descriptorFields_terminator charset position rest
    | succ k ih =>
      obtain ⟨block, rest, rfl, hlength, hhead, hrest⟩ := hends.exists_append
      obtain ⟨hname, hnamed⟩ := (named_append_iff hlength).mp hnamed
      have hfield : descriptorField? charset block = some (declaredField charset block) := by
        rw [descriptorField?_eq, if_neg hname]
      rw [declaredFields_append hlength]
      exact descriptorFields_append hlength hhead hfield (ih hrest hnamed)

private theorem fieldBytes_eq_sum (fields : List Field) : fieldBytes fields = (fields.map (·.length.toNat)).sum := by
  induction fields with
  | nil => rfl
  | cons field fields ih => rw [fieldBytes, ih, List.map_cons, List.sum_cons]

/-- Bytes that are `k` descriptors with names, whose widths make up a record of the given length. -/
structure IsArea (charset : Charset) (recordLength : Nat) (bytes : List UInt8) (k : Nat) : Prop
    extends EndsAfter bytes k where
  pos : 0 < k
  named : ∀ j < k, descriptorName charset (descriptorAt bytes j) ≠ []
  sum_widths : 1 + ((List.range k).map fun j => (byteAt (descriptorAt bytes j) 16).toNat).sum = recordLength

variable {recordLength : Nat}

theorem neededLength_declaredFields :
    neededLength (declaredFields charset bytes k) =
      1 + ((List.range k).map fun j => (byteAt (descriptorAt bytes j) 16).toNat).sum := by
  rw [neededLength, fieldBytes_eq_sum, declaredFields, List.map_map]
  rfl

private theorem declaredFields_ne_nil_iff : declaredFields charset bytes k ≠ [] ↔ 0 < k := by
  rw [declaredFields, ne_eq, List.map_eq_nil_iff, List.range_eq_nil, Nat.pos_iff_ne_zero]

theorem decodeDescriptors_eq_ok_iff :
    decodeDescriptors charset recordLength bytes = .ok fields ↔
      descriptorFields charset 1 bytes = .ok fields ∧ fields ≠ [] ∧ neededLength fields = recordLength := by
  unfold decodeDescriptors
  cases descriptorFields charset 1 bytes with
  | error fault => exact ⟨nofun, nofun⟩
  | ok others =>
    simp only [Except.ok.injEq]
    grind

/-- A place in a descriptor that says nothing of its field. -/
def IsUnread (i : Nat) : Prop :=
  maxNameLength < i % descriptorSize ∧ i % descriptorSize ≠ 16 ∧ i % descriptorSize ≠ 17

private theorem byteAt_set {i j : Nat} (h : i ≠ j) (b : UInt8) : byteAt (block.set i b) j = byteAt block j := by
  rw [byteAt, List.getElem?_set_ne h, byteAt]

private theorem descriptorField?_set {i : Nat} (h : IsUnread i) (hi : i < descriptorSize) (b : UInt8) :
    descriptorField? charset (block.set i b) = descriptorField? charset block := by
  obtain ⟨hname, hlength, hdecimals⟩ := h
  rw [Nat.mod_eq_of_lt hi] at hname hlength hdecimals
  have htake : (block.set i b).take maxNameLength = block.take maxNameLength :=
    List.take_set_of_le (Nat.le_of_lt hname)
  have hcode : i ≠ 11 := Nat.ne_of_gt hname
  rw [descriptorField?, descriptorName, htake, byteAt_set hcode, byteAt_set hlength, byteAt_set hdecimals]
  rfl

private theorem IsUnread.head?_set {i : Nat} (h : IsUnread i) (b : UInt8) : (bytes.set i b).head? = bytes.head? := by
  cases i with
  | zero => exact absurd h.1 (by decide)
  | succ i => cases bytes <;> rfl

private theorem descriptorFields_set {i : Nat} (h : IsUnread i) (b : UInt8) :
    descriptorFields charset position (bytes.set i b) = descriptorFields charset position bytes := by
  induction bytes using inductionOnDescriptors generalizing position i with
  | ended rest =>
    have hhead : ((terminator :: rest).set i b).head? = some terminator := h.head?_set b
    obtain ⟨behind, hset⟩ := List.head?_eq_some_iff.mp hhead
    rw [hset, descriptorFields_terminator, descriptorFields_terminator]
  | short bytes hlength hfirst =>
    rw [descriptorFields_short hlength hfirst]
    exact descriptorFields_short ((List.length_set ..).trans_lt hlength) ((h.head?_set b).trans_ne hfirst)
  | block block rest hlength hfirst ih =>
    by_cases hi : i < descriptorSize
    · rw [List.set_append_left _ _ (by omega), descriptorFields_block hlength hfirst,
        descriptorFields_block ((List.length_set ..).trans hlength) ((h.head?_set b).trans_ne hfirst),
        descriptorField?_set h hi]
    · have hmod : (i - descriptorSize) % descriptorSize = i % descriptorSize := by
        unfold descriptorSize at *
        omega
      have hunread : IsUnread (i - descriptorSize) := by
        rw [IsUnread, hmod]
        exact h
      rw [List.set_append_right _ _ (by omega), hlength, descriptorFields_block hlength hfirst,
        descriptorFields_block hlength hfirst, ih hunread]

def slice? (bytes : List UInt8) (offset count : Nat) : Option (List UInt8) :=
  if offset + count ≤ bytes.length then some (slice bytes offset count) else none

/-- Reads the descriptor at an offset, each byte by its place. `none` stands for a byte asked for where there is
none. -/
def fieldAtOffset? (charset : Charset) (bytes : List UInt8) (offset : Nat) : Option (Option Field) := do
  let block ← slice? bytes offset descriptorSize
  let nameBytes ← slice? block 0 maxNameLength
  let name := Text.trim (charset.decode (nameBytes.takeWhile (· ≠ 0)))
  if name = [] then return none
  return some ⟨String.ofList name, .ofCode (← block[11]?), ← block[16]?, ← block[17]?⟩

def fieldsFromOffset? (charset : Charset) (bytes : List UInt8) (position offset : Nat) :
    Option (Except FormatFault (List Field)) :=
  match bytes[offset]? with
  | none => some (.error .unterminatedDescriptors)
  | some b =>
    if b = terminator then some (.ok [])
    else if _h : bytes.length < offset + descriptorSize then some (.error .unterminatedDescriptors)
    else do
      match ← fieldAtOffset? charset bytes offset with
      | none => some (.error (.unnamedField position))
      | some field =>
        match ← fieldsFromOffset? charset bytes (position + 1) (offset + descriptorSize) with
        | .ok fields => some (.ok (field :: fields))
        | .error fault => some (.error fault)
termination_by bytes.length - offset
decreasing_by
  unfold descriptorSize at *
  omega

private theorem length_slice {offset count : Nat} (h : offset + count ≤ bytes.length) :
    (slice bytes offset count).length = count := by
  rw [slice, List.length_take_of_le]
  rw [List.length_drop]
  omega

theorem slice?_eq {offset count : Nat} (h : offset + count ≤ bytes.length) :
    slice? bytes offset count = some (slice bytes offset count) := if_pos h

private theorem fieldAtOffset?_eq {offset : Nat} (h : offset + descriptorSize ≤ bytes.length) :
    fieldAtOffset? charset bytes offset = some (descriptorField? charset (slice bytes offset descriptorSize)) := by
  obtain ⟨block, hblock⟩ : ∃ block, slice bytes offset descriptorSize = block := ⟨_, rfl⟩
  have hlength : block.length = descriptorSize := by rw [← hblock, length_slice h]
  have hname : 0 + maxNameLength ≤ block.length := by
    rw [hlength]
    decide
  have hbyte (i : Nat) (hi : i < descriptorSize) : block[i]? = some (byteAt block i) := by
    rw [byteAt, List.getElem?_eq_getElem (hlength ▸ hi), Option.getD_some]
  have hcode := hbyte 11 (by decide)
  have hwidth := hbyte 16 (by decide)
  have hdecimals := hbyte 17 (by decide)
  rw [fieldAtOffset?, slice?_eq h, descriptorField?_eq, hblock]
  simp only [Option.bind_eq_bind, Option.bind_some, slice?_eq hname, hcode, hwidth, hdecimals]
  change (if descriptorName charset block = [] then _ else _) = _
  split <;> rfl

private theorem fieldsFromOffset?_eq (position offset : Nat) :
    fieldsFromOffset? charset bytes position offset =
      some (descriptorFields charset position (bytes.drop offset)) := by
  induction hrest : bytes.drop offset using inductionOnDescriptors generalizing position offset with
  | ended rest =>
    have hbyte : bytes[offset]? = some terminator := by rw [← List.head?_drop, hrest, List.head?_cons]
    rw [descriptorFields_terminator, fieldsFromOffset?, hbyte]
    rfl
  | short rest hlength hfirst =>
    have hdrop : bytes.length - offset = rest.length := by rw [← List.length_drop, hrest]
    rw [descriptorFields_short hlength hfirst, fieldsFromOffset?, ← List.head?_drop, hrest]
    cases rest with
    | nil => rfl
    | cons b rest =>
      have hb : b ≠ terminator := fun h => hfirst (congrArg some h)
      simp only [List.head?_cons, if_neg hb]
      rw [dif_pos (by omega)]
  | block block rest hlength hfirst ih =>
    have hblock : slice bytes offset descriptorSize = block := by rw [slice, hrest, List.take_left' hlength]
    have hbehind : bytes.drop (offset + descriptorSize) = rest := by
      rw [← List.drop_drop, hrest, List.drop_left' hlength]
    have hroom : offset + descriptorSize ≤ bytes.length := by
      have hdrop : bytes.length - offset = (block ++ rest).length := by rw [← List.length_drop, hrest]
      rw [List.length_append, hlength] at hdrop
      unfold descriptorSize at *
      omega
    rw [descriptorFields_block hlength hfirst, fieldsFromOffset?, ← List.head?_drop, hrest,
      fieldAtOffset?_eq hroom, hblock, ih _ _ hbehind]
    cases block with
    | nil => cases hlength
    | cons b block =>
      have hb : b ≠ terminator := fun h => hfirst (congrArg some h)
      simp only [List.cons_append, List.head?_cons, if_neg hb]
      rw [dif_neg (Nat.not_lt.mpr hroom)]
      cases descriptorField? charset (b :: block) with
      | none => rfl
      | some field => cases descriptorFields charset (position + 1) rest <;> rfl

/-- Bytes are decoded exactly if they are an area: the first terminator in the place of a descriptor stands
behind `k` of them, at least one, each has a name, and the widths make up a record. The fields are what those `k`
descriptors say, in their order. Any other bytes are refused. Neither what follows the terminator nor a byte in a
place that says nothing of a field makes a difference, and no byte is asked for beyond the end. -/
theorem decodeDescriptors_exact (charset : Charset) (recordLength : Nat) (bytes : List UInt8) :
    (∀ fields, decodeDescriptors charset recordLength bytes = .ok fields ↔
        ∃ k, IsArea charset recordLength bytes k ∧ fields = declaredFields charset bytes k) ∧
      ((∀ k, ¬ IsArea charset recordLength bytes k) →
        ∃ fault, decodeDescriptors charset recordLength bytes = .error fault) ∧
      (∀ k rest, EndsAfter bytes k →
        decodeDescriptors charset recordLength (bytes.take (descriptorSize * k + 1) ++ rest) =
          decodeDescriptors charset recordLength bytes) ∧
      (∀ i b, IsUnread i →
        decodeDescriptors charset recordLength (bytes.set i b) =
          decodeDescriptors charset recordLength bytes) ∧
      fieldsFromOffset? charset bytes 1 0 = some (descriptorFields charset 1 bytes) := by
  have hexact (fields : List Field) : decodeDescriptors charset recordLength bytes = .ok fields ↔
      ∃ k, IsArea charset recordLength bytes k ∧ fields = declaredFields charset bytes k := by
    rw [decodeDescriptors_eq_ok_iff, descriptorFields_eq_ok_iff]
    constructor
    · intro h
      obtain ⟨⟨k, hends, hnamed, rfl⟩, hne, hlength⟩ := h
      rw [neededLength_declaredFields] at hlength
      exact ⟨k, ⟨hends, declaredFields_ne_nil_iff.mp hne, hnamed, hlength⟩, rfl⟩
    · intro h
      obtain ⟨k, ⟨hends, hpos, hnamed, hlength⟩, rfl⟩ := h
      refine ⟨⟨k, hends, hnamed, rfl⟩, declaredFields_ne_nil_iff.mpr hpos, ?_⟩
      rw [neededLength_declaredFields, hlength]
  refine ⟨hexact, fun hnone => ?_, fun k rest hends => ?_, fun i b hunread => ?_, ?_⟩
  · cases hdecode : decodeDescriptors charset recordLength bytes with
    | error fault => exact ⟨fault, rfl⟩
    | ok fields =>
      obtain ⟨k, harea, -⟩ := (hexact fields).mp hdecode
      exact absurd harea (hnone k)
  · rw [decodeDescriptors, hends.descriptorFields_take, decodeDescriptors]
  · rw [decodeDescriptors, descriptorFields_set hunread, decodeDescriptors]
  · exact fieldsFromOffset?_eq 1 0

/-- Two descriptors, a terminator and a byte behind it. The first name fills its place, and the mark of the end
stands in places that say nothing. -/
def twoDescriptors : List UInt8 :=
  [0x50, 0x4F, 0x50, 0x55, 0x4C, 0x41, 0x54, 0x49, 0x4F, 0x4E, 0x53, 0x6E, 0x0D, 0, 0, 0, 9, 2] ++
    List.replicate 14 0x0D ++ [0x20, 0x41, 0, 0x42, 0, 0, 0, 0, 0, 0, 0, 0x43, 0, 0, 0, 0, 5, 0] ++
    List.replicate 14 0 ++ [terminator, 0x41]

theorem decodeDescriptors_twoDescriptors :
    decodeDescriptors (.page .windows1252) 15 twoDescriptors =
        .ok [⟨"POPULATIONS", .numeric, 9, 2⟩, ⟨"A", .character, 5, 0⟩] ∧
      (∃ fault, decodeDescriptors (.page .windows1252) 15 (twoDescriptors.take 64) = .error fault) ∧
      decodeDescriptors (.page .windows1252) 15 (twoDescriptors.take 65) =
        decodeDescriptors (.page .windows1252) 15 twoDescriptors ∧
      decodeDescriptors (.page .windows1252) 15 (twoDescriptors.set 31 0) =
        decodeDescriptors (.page .windows1252) 15 twoDescriptors := by
  obtain ⟨hexact, -, hbehind, hunread, -⟩ := decodeDescriptors_exact (.page .windows1252) 15 twoDescriptors
  obtain ⟨-, hrefused, -⟩ := decodeDescriptors_exact (.page .windows1252) 15 (twoDescriptors.take 64)
  have hends : EndsAfter twoDescriptors 2 := ⟨rfl, by decide⟩
  have harea : IsArea (.page .windows1252) 15 twoDescriptors 2 :=
    { hends with
      pos := by decide
      named := by decide +kernel
      sum_widths := by decide }
  refine ⟨?_, hrefused ?_, ?_, hunread 31 0 ⟨by decide, by decide, by decide⟩⟩
  · rw [hexact]
    exact ⟨2, harea, by decide +kernel⟩
  · intro k hcut
    have hlt : descriptorSize * k < (twoDescriptors.take 64).length := hcut.lt_length
    have hk : k = 0 ∨ k = 1 := by
      change 32 * k < 64 at hlt
      omega
    obtain rfl | rfl := hk
    · exact absurd hcut.terminated (by decide)
    · exact absurd hcut.terminated (by decide)
  · have hcut := hbehind 2 [] hends
    rwa [List.append_nil] at hcut

end Xbase.Table
