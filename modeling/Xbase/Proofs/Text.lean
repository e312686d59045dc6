import Mathlib.Data.List.DropRight
import Xbase.Text.Blank
/-!
# Trimming

What the removal of elements from the ends of a list takes along, and which lists it leaves alone.
-/
namespace Xbase.Text

variable {α : Type} {p : α → Bool} {s padding : List α}

theorem rdropWhile_append_of_pos (h : ∀ a ∈ padding, p a = true) :
    (s ++ padding).rdropWhile p = s.rdropWhile p := by
  have hreverse : ∀ a ∈ padding.reverse, p a = true := fun a ha => h a (List.mem_reverse.mp ha)
  rw [List.rdropWhile, List.rdropWhile, List.reverse_append, List.dropWhile_append_of_pos hreverse]

theorem trimBoth_append_left (h : ∀ a ∈ padding, p a = true) :
    trimBoth p (padding ++ s) = trimBoth p s := by
  rw [trimBoth, List.dropWhile_append_of_pos h]
  rfl

theorem trimBoth_append_right (h : ∀ a ∈ padding, p a = true) :
    trimBoth p (s ++ padding) = trimBoth p s := by
  change ((s ++ padding).dropWhile p).rdropWhile p = (s.dropWhile p).rdropWhile p
  rw [List.dropWhile_append]
  split
  · rename_i hempty
    rw [List.isEmpty_iff.mp hempty, List.dropWhile_eq_nil_iff.mpr h]
  · exact rdropWhile_append_of_pos h

theorem rdropWhile_eq_self_iff : s.rdropWhile p = s ↔ s.getLast?.any p = false := by
  rw [List.rdropWhile_eq_self_iff]
  cases s using List.reverseRecOn <;> simp

theorem trimBoth_eq_self_iff :
    trimBoth p s = s ↔ s.head?.any p = false ∧ s.getLast?.any p = false := by
  have hhead : s.dropWhile p = s ↔ s.head?.any p = false := by
    rw [List.dropWhile_eq_self_iff]
    cases s <;> simp
  rw [← hhead, ← rdropWhile_eq_self_iff]
  change (s.dropWhile p).rdropWhile p = s ↔ _
  constructor
  · intro h
    -- what is left is no longer than the list without its front, so nothing was taken off there
    have hlength := (List.rdropWhile_prefix p (s.dropWhile p)).length_le
    rw [h] at hlength
    have hfront := (List.dropWhile_suffix p).eq_of_length_le hlength
    rw [hfront] at h
    exact ⟨hfront, h⟩
  · rintro ⟨hfront, hback⟩
    rw [hfront, hback]

/-- What is left between the ends that are taken off neither begins nor ends with such an element. -/
theorem trimBoth_eq_iff {t : List α} :
    trimBoth p s = t ↔
      (∃ front back, s = front ++ t ++ back ∧ (∀ a ∈ front, p a = true) ∧ ∀ a ∈ back, p a = true) ∧
        t.head?.any p = false ∧ t.getLast?.any p = false := by
  constructor
  · intro h
    subst h
    have hfront : ∀ a ∈ s.takeWhile p, p a = true := fun a ha => List.mem_takeWhile_imp ha
    have hback : ∀ a ∈ (s.dropWhile p).rtakeWhile p, p a = true := fun a ha => List.mem_rtakeWhile_imp ha
    have hsplit : s = s.takeWhile p ++ trimBoth p s ++ (s.dropWhile p).rtakeWhile p := by
      rw [List.append_assoc]
      change s = s.takeWhile p ++ ((s.dropWhile p).rdropWhile p ++ _)
      rw [List.rdropWhile_append_rtakeWhile, List.takeWhile_append_dropWhile]
    refine ⟨⟨_, _, hsplit, hfront, hback⟩, trimBoth_eq_self_iff.mp ?_⟩
    calc trimBoth p (trimBoth p s)
      _ = trimBoth p (s.takeWhile p ++ trimBoth p s) := (trimBoth_append_left hfront).symm
      _ = trimBoth p (s.takeWhile p ++ trimBoth p s ++ (s.dropWhile p).rtakeWhile p) :=
        (trimBoth_append_right hback).symm
      _ = trimBoth p s := by rw [← hsplit]
  · intro h
    obtain ⟨⟨front, back, rfl, hfront, hback⟩, hends⟩ := h
    rw [trimBoth_append_right hback, trimBoth_append_left hfront, trimBoth_eq_self_iff.mpr hends]

theorem rdropWhile_eq_iff {t : List α} :
    s.rdropWhile p = t ↔
      (∃ back, s = t ++ back ∧ ∀ a ∈ back, p a = true) ∧ t.getLast?.any p = false := by
  constructor
  · intro h
    subst h
    have hback : ∀ a ∈ s.rtakeWhile p, p a = true := fun a ha => List.mem_rtakeWhile_imp ha
    refine ⟨⟨_, List.rdropWhile_append_rtakeWhile.symm, hback⟩, ?_⟩
    exact rdropWhile_eq_self_iff.mp (List.rdropWhile_idempotent p s)
  · intro h
    obtain ⟨⟨back, rfl, hback⟩, hend⟩ := h
    rw [rdropWhile_append_of_pos hback, rdropWhile_eq_self_iff.mpr hend]

end Xbase.Text
