import Xbase.Proofs.Table.Record
/-!
# Padding

The bytes of a field are its value between two runs of padding. Taking the padding off leaves nothing of it at
either end of the value and takes nothing else, so padding put on again makes no difference.
-/
namespace Xbase.Table

variable {type : FieldType} {bytes value front back : List UInt8} {byte : Option UInt8}

/-- Bytes that are padding and nothing else: blanks and NULs. -/
def IsFilling (bytes : List UInt8) : Prop := ∀ b ∈ bytes, b = 0x20 ∨ b = 0

private theorem isFilling_iff : IsFilling bytes ↔ ∀ b ∈ bytes, isPadding b = true := by
  simp [IsFilling, isPadding]

private theorem isFilling_nil : IsFilling [] := nofun

private theorem any_isPadding_eq_false_iff :
    byte.any isPadding = false ↔ ∀ b ∈ byte, b ≠ 0x20 ∧ b ≠ 0 := by
  cases byte <;> simp [isPadding]

theorem trimEnd_eq_iff :
    trimEnd bytes = value ↔
      (∃ back, bytes = value ++ back ∧ IsFilling back) ∧ value.getLast?.any isPadding = false := by
  simp only [isFilling_iff]
  exact Text.rdropWhile_eq_iff

theorem trimBoth_isPadding_eq_iff :
    Text.trimBoth isPadding bytes = value ↔
      (∃ front back, bytes = front ++ value ++ back ∧ IsFilling front ∧ IsFilling back) ∧
        value.head?.any isPadding = false ∧ value.getLast?.any isPadding = false := by
  simp only [isFilling_iff]
  exact Text.trimBoth_eq_iff

private theorem trimBoth_isPadding_eq_nil_iff : Text.trimBoth isPadding bytes = [] ↔ IsFilling bytes := by
  rw [trimBoth_isPadding_eq_iff]
  constructor
  · intro h
    obtain ⟨⟨front, back, rfl, hfront, hback⟩, -⟩ := h
    intro b hb
    simp only [List.append_nil, List.mem_append] at hb
    exact hb.elim (hfront b) (hback b)
  · intro h
    exact ⟨⟨bytes, [], by simp, h, isFilling_nil⟩, rfl, rfl⟩

private theorem trimBoth_isPadding_append (hfront : IsFilling front) (hback : IsFilling back) :
    Text.trimBoth isPadding (front ++ bytes ++ back) = Text.trimBoth isPadding bytes := by
  rw [Text.trimBoth_append_right (isFilling_iff.mp hback), Text.trimBoth_append_left (isFilling_iff.mp hfront)]

private theorem fieldValue_eq_some_iff_append :
    fieldValue type bytes = some value ↔
      Keeps type value ∧ ∃ front back, bytes = front ++ value ++ back ∧ IsFilling front ∧ IsFilling back ∧
        (type = .character → front = [] ∧ ∃ b ∈ bytes, b ≠ 0) := by
  by_cases htype : type = .character
  · subst htype
    rw [fieldValue_character_eq_some_iff, trimEnd_eq_iff]
    constructor
    · intro h
      obtain ⟨hwritten, ⟨back, hbytes, hback⟩, hend⟩ := h
      exact ⟨⟨hend, fun h => absurd rfl h⟩, [], back, hbytes, isFilling_nil, hback, fun _ => ⟨rfl, hwritten⟩⟩
    · intro h
      obtain ⟨hkeeps, front, back, hbytes, -, hback, htext⟩ := h
      obtain ⟨rfl, hwritten⟩ := htext rfl
      exact ⟨hwritten, ⟨back, hbytes, hback⟩, hkeeps.1⟩
  · rw [fieldValue_eq_some_iff htype, trimBoth_isPadding_eq_iff, Keeps]
    constructor
    · intro h
      obtain ⟨⟨⟨front, back, hbytes, hfront, hback⟩, hhead, hend⟩, hne, hpresent⟩ := h
      exact ⟨⟨hend, fun _ => ⟨hne, hhead, hpresent⟩⟩, front, back, hbytes, hfront, hback,
        fun h => absurd h htype⟩
    · intro h
      obtain ⟨⟨hend, hvalue⟩, front, back, hbytes, hfront, hback, -⟩ := h
      obtain ⟨hne, hhead, hpresent⟩ := hvalue htype
      exact ⟨⟨⟨front, back, hbytes, hfront, hback⟩, hhead, hend⟩, hne, hpresent⟩

private theorem fieldValue_character_eq_none_iff : fieldValue .character bytes = none ↔ ∀ b ∈ bytes, b = 0 := by
  simp [fieldValue]

theorem fieldValue_eq_none_iff (h : type ≠ .character) :
    fieldValue type bytes = none ↔
      IsFilling bytes ∨
        (type = .logical ∧
          ∃ front back, bytes = front ++ [0x3F] ++ back ∧ IsFilling front ∧ IsFilling back) := by
  have hmark : Text.trimBoth isPadding bytes = [0x3F] ↔
      ∃ front back, bytes = front ++ [0x3F] ++ back ∧ IsFilling front ∧ IsFilling back := by
    rw [trimBoth_isPadding_eq_iff]
    exact and_iff_left ⟨by decide, by decide⟩
  rw [fieldValue_of_ne_character h, ← trimBoth_isPadding_eq_nil_iff, ← hmark]
  split
  · rename_i habsent
    exact iff_of_true rfl habsent
  · rename_i hpresent
    exact iff_of_false nofun hpresent

private theorem Keeps.fieldValue_self (h : Keeps type value) (hne : value ≠ []) :
    fieldValue type value = some value := by
  refine fieldValue_eq_some_iff_append.mpr ⟨h, [], [], by simp, isFilling_nil, isFilling_nil, fun _ => ⟨rfl, ?_⟩⟩
  have hlast := any_isPadding_eq_false_iff.mp h.1 _ (List.getLast?_eq_some_getLast hne)
  exact ⟨_, List.getLast_mem hne, hlast.2⟩

/-- The value of a field's bytes is what stands in them between padding, text from their beginning, and has no
padding at its end nor, unless it is text, at its beginning. There is none exactly if the bytes are NULs for text,
padding for anything else, or a question mark between padding for a truth value. More padding on either side, and
behind text that was written, makes no difference, and a value that is not empty is read from its own bytes. -/
theorem fieldValue_exact (type : FieldType) (bytes : List UInt8) :
    (∀ value, fieldValue type bytes = some value →
      (∃ front back, bytes = front ++ value ++ back ∧ IsFilling front ∧ IsFilling back ∧
        (type = .character → front = [])) ∧
      (∀ b ∈ value.getLast?, b ≠ 0x20 ∧ b ≠ 0) ∧
      (type ≠ .character → value ≠ [] ∧ ∀ b ∈ value.head?, b ≠ 0x20 ∧ b ≠ 0)) ∧
    (fieldValue type bytes = none ↔
      (type = .character ∧ ∀ b ∈ bytes, b = 0) ∨ (type ≠ .character ∧ IsFilling bytes) ∨
        (type = .logical ∧
          ∃ front back, bytes = front ++ [0x3F] ++ back ∧ IsFilling front ∧ IsFilling back)) ∧
    (type ≠ .character → ∀ front back, IsFilling front → IsFilling back →
      fieldValue type (front ++ bytes ++ back) = fieldValue type bytes) ∧
    (type = .character → (∃ b ∈ bytes, b ≠ 0) → ∀ back, IsFilling back →
      fieldValue type (bytes ++ back) = fieldValue type bytes) ∧
    (∀ value, fieldValue type bytes = some value → value ≠ [] → fieldValue type value = some value) := by
  refine ⟨fun value h => ?_, ?_, fun htype front back hfront hback => ?_, fun htype hwritten back hback => ?_,
    fun value h hne => (fieldValue_eq_some_iff_append.mp h).1.fieldValue_self hne⟩
  · obtain ⟨⟨hend, hvalue⟩, front, back, hbytes, hfront, hback, htext⟩ := fieldValue_eq_some_iff_append.mp h
    refine ⟨⟨front, back, hbytes, hfront, hback, fun h => (htext h).1⟩,
      any_isPadding_eq_false_iff.mp hend, fun htype => ?_⟩
    obtain ⟨hne, hhead, -⟩ := hvalue htype
    exact ⟨hne, any_isPadding_eq_false_iff.mp hhead⟩
  · by_cases htype : type = .character
    · subst htype
      simp [fieldValue_character_eq_none_iff]
    · simp [fieldValue_eq_none_iff htype, htype]
  · rw [fieldValue_of_ne_character htype, trimBoth_isPadding_append hfront hback, fieldValue_of_ne_character htype]
  · subst htype
    obtain ⟨b, hb, hne⟩ := hwritten
    have hmore : fieldValue .character (bytes ++ back) = some (trimEnd bytes) :=
      fieldValue_character_eq_some_iff.mpr
        ⟨⟨b, List.mem_append_left back hb, hne⟩, Text.rdropWhile_append_of_pos (isFilling_iff.mp hback)⟩
    have hsame : fieldValue .character bytes = some (trimEnd bytes) :=
      fieldValue_character_eq_some_iff.mpr ⟨⟨b, hb, hne⟩, rfl⟩
    rw [hmore, hsame]

theorem fieldValue_exact_mixedPadding :
    fieldValue .numeric [0, 0x20, 0x34, 0x20, 0x32, 0] = some [0x34, 0x20, 0x32] ∧
      fieldValue .numeric ([0x20] ++ [0, 0x20, 0x34, 0x20, 0x32, 0] ++ [0x20, 0]) = some [0x34, 0x20, 0x32] ∧
      fieldValue .numeric [0x34, 0x20, 0x32] = some [0x34, 0x20, 0x32] ∧
      fieldValue .character ([0x20, 0] ++ [0, 0x20]) = some [] ∧
      fieldValue .character [0, 0] = none ∧ fieldValue .logical [0, 0x3F, 0x20] = none := by
  have hnumber : fieldValue .numeric [0, 0x20, 0x34, 0x20, 0x32, 0] = some [0x34, 0x20, 0x32] := by decide
  obtain ⟨-, -, hmore, -, hself⟩ := fieldValue_exact .numeric [0, 0x20, 0x34, 0x20, 0x32, 0]
  obtain ⟨-, -, -, htext, -⟩ := fieldValue_exact .character [0x20, 0]
  obtain ⟨-, hunwritten, -⟩ := fieldValue_exact .character [0, 0]
  obtain ⟨-, hunset, -⟩ := fieldValue_exact .logical [0, 0x3F, 0x20]
  refine ⟨hnumber, ?_, hself _ hnumber (by decide), ?_, ?_, ?_⟩
  · rw [hmore (by decide) [0x20] [0x20, 0] (by simp [IsFilling]) (by simp [IsFilling]), hnumber]
  · rw [htext rfl ⟨0x20, by simp, by decide⟩ [0, 0x20] (by simp [IsFilling])]
    decide
  · exact hunwritten.mpr (.inl ⟨rfl, by simp⟩)
  · exact hunset.mpr (.inr (.inr ⟨rfl, [0], [0x20], rfl, by simp [IsFilling], by simp [IsFilling]⟩))

end Xbase.Table
