import Mathlib.Data.List.Induction
import Xbase.Number.Notation
import Xbase.Number.Reading
import Xbase.Text.Blank
/-!
# Writing and reading integers

The digits of an integer are read as that integer. A text of digits is what its value is written with exactly
if no zero stands in front.
-/
namespace Xbase.Number

theorem toNat_of_isDigit {c : Char} (h : c.isDigit = true) : 48 ≤ c.toNat ∧ c.toNat ≤ 57 := by
  simpa [Char.isDigit, UInt32.le_iff_toNat_le] using h

theorem isBlank_of_isDigit {c : Char} (h : c.isDigit = true) : Text.isBlank c = false := by
  have hrange := toNat_of_isDigit h
  simp [Text.isBlank, Text.blankRanges, Text.Ranges.has]
  omega

theorem isDigit_of_mem_natText {n : Nat} {c : Char} (h : c ∈ natText n) : c.isDigit = true :=
  Nat.isDigit_of_mem_toDigits (by decide) (by decide) h

theorem natText_ne_nil (n : Nat) : natText n ≠ [] := Nat.toDigits_ne_nil

theorem natOfText?_natText (n : Nat) : natOfText? (natText n) = some n := by
  have hall : (natText n).all Char.isDigit = true := List.all_eq_true.mpr fun c => isDigit_of_mem_natText
  rw [natOfText?, if_pos ⟨natText_ne_nil n, hall⟩, natText, Nat.ofDigitChars_ten_toDigits]

theorem splitSign_of_digits {s : List Char} (h : ∀ c ∈ s, c.isDigit = true) :
    splitSign s = (false, s) := by
  cases s with
  | nil => rfl
  | cons c s =>
    have hdigit := h c List.mem_cons_self
    have hminus : c ≠ '-' := by
      rintro rfl
      exact absurd hdigit (by decide)
    have hplus : c ≠ '+' := by
      rintro rfl
      exact absurd hdigit (by decide)
    simp [splitSign, hminus, hplus]

theorem splitSign_cases (s : List Char) :
    (∃ t, s = '-' :: t ∧ splitSign s = (true, t)) ∨ (∃ t, s = '+' :: t ∧ splitSign s = (false, t)) ∨
      splitSign s = (false, s) := by
  unfold splitSign
  split <;> simp

theorem eq_of_natOfText? {s : List Char} {n : Nat} (h : natOfText? s = some n) :
    s ≠ [] ∧ (∀ c ∈ s, c.isDigit = true) ∧ Nat.ofDigitChars 10 s 0 = n := by
  unfold natOfText? at h
  split at h
  · rename_i hs
    exact ⟨hs.1, List.all_eq_true.mp hs.2, Option.some.inj h⟩
  · cases h

theorem intOfText?_of_splitSign {s digits : List Char} {negative : Bool} {n : Nat}
    (hs : splitSign s = (negative, digits)) (hn : natOfText? digits = some n) :
    intOfText? s = some (if negative then -(n : Int) else n) := by
  rw [intOfText?, hs]
  simp only [hn]
  rfl

theorem intOfText?_intText (n : Int) : intOfText? (intText n) = some n := by
  by_cases hn : n < 0
  · have hsplit : splitSign (intText n) = (true, natText n.natAbs) := by
      rw [intText, if_pos hn]
      rfl
    have hvalue : -(n.natAbs : Int) = n := by omega
    rw [intOfText?_of_splitSign hsplit (natOfText?_natText _), if_pos rfl, hvalue]
  · have hsplit : splitSign (intText n) = (false, natText n.natAbs) := by
      rw [intText, if_neg hn]
      exact splitSign_of_digits fun c => isDigit_of_mem_natText
    have hvalue : (n.natAbs : Int) = n := by omega
    rw [intOfText?_of_splitSign hsplit (natOfText?_natText _), if_neg Bool.false_ne_true, hvalue]

private theorem holds_toInt (n : Int64) : IntWidth.w64.Holds n.toInt :=
  ⟨n.le_toInt, n.toInt_lt⟩

theorem ofText?_intText (n : Int64) : IntWidth.w64.ofText? (intText n.toInt) = some n.toInt := by
  rw [IntWidth.ofText?, intOfText?_intText, Option.filter_some, if_pos (decide_eq_true (holds_toInt n))]

private theorem natText_of_isDigit {c : Char} (h : c.isDigit = true) : natText (c.toNat - 48) = [c] := by
  obtain ⟨hge, hle⟩ := toNat_of_isDigit h
  have hlt : c.toNat - 48 < 10 := by omega
  have hchar : (c.toNat - 48).digitChar = c := by
    apply Char.toNat_inj.mp
    rw [Nat.toNat_digitChar_of_lt_ten hlt]
    omega
  rw [natText, Nat.toDigits_of_lt_base hlt, hchar]

/-- Digits with no zero in front are what their value is written with. -/
theorem natText_ofDigitChars {c : Char} {s : List Char} (hc : c ≠ '0')
    (h : ∀ d ∈ c :: s, d.isDigit = true) : natText (Nat.ofDigitChars 10 (c :: s) 0) = c :: s := by
  induction s using List.reverseRecOn with
  | nil =>
    have hvalue : Nat.ofDigitChars 10 [c] 0 = c.toNat - 48 := by simp [Nat.ofDigitChars_cons]
    rw [hvalue, natText_of_isDigit (h c List.mem_cons_self)]
  | append_singleton s d ih =>
    rw [← List.cons_append] at h ⊢
    have hfront := ih fun e he => h e (List.mem_append_left _ he)
    have hd : d.isDigit = true := h d (by simp)
    have hlt : d.toNat - 48 < 10 := by
      have hrange := toNat_of_isDigit hd
      omega
    have hpos : 0 < Nat.ofDigitChars 10 (c :: s) 0 := by
      apply Nat.pos_of_ne_zero
      intro hzero
      rw [hzero] at hfront
      exact hc (List.cons.inj hfront).1.symm
    have hvalue : Nat.ofDigitChars 10 (c :: s ++ [d]) 0 =
        10 * Nat.ofDigitChars 10 (c :: s) 0 + (d.toNat - 48) := by
      rw [Nat.ofDigitChars_append, Nat.ofDigitChars_cons, Nat.ofDigitChars_nil]
      rfl
    have hdigits := Nat.toDigits_append_toDigits (by decide : 1 < 10) hpos hlt
    rw [hvalue, natText, ← hdigits]
    exact congrArg₂ (· ++ ·) hfront (natText_of_isDigit hd)

/-- The first digit counts as much as its place says. -/
theorem ofDigitChars_cons (c : Char) (s : List Char) :
    Nat.ofDigitChars 10 (c :: s) 0 = pow10 s.length * (c.toNat - 48) + Nat.ofDigitChars 10 s 0 := by
  rw [Nat.ofDigitChars_cons, Nat.ofDigitChars_eq_ofDigitChars_zero, Nat.mul_zero, Nat.zero_add]
  rfl

theorem ofDigitChars_lt {s : List Char} (h : ∀ c ∈ s, c.isDigit = true) :
    Nat.ofDigitChars 10 s 0 < pow10 s.length := by
  induction s with
  | nil => exact Nat.one_pos
  | cons c s ih =>
    have hs := ih fun d hd => h d (List.mem_cons_of_mem c hd)
    have hc := toNat_of_isDigit (h c List.mem_cons_self)
    have hle : pow10 s.length * (c.toNat - 48) ≤ pow10 s.length * 9 := Nat.mul_le_mul_left _ (by omega)
    have hpow : pow10 (c :: s).length = pow10 s.length * 10 := rfl
    rw [ofDigitChars_cons, hpow]
    omega

theorem ofDigitChars_zero_cons (s : List Char) :
    Nat.ofDigitChars 10 ('0' :: s) 0 = Nat.ofDigitChars 10 s 0 := by
  simp [Nat.ofDigitChars_cons]

theorem length_natText_ofDigitChars_zero {s : List Char} (hs : s ≠ [])
    (h : ∀ c ∈ s, c.isDigit = true) : (natText (Nat.ofDigitChars 10 ('0' :: s) 0)).length ≤ s.length := by
  rw [ofDigitChars_zero_cons]
  exact (Nat.length_toDigits_le_iff (by decide) (List.length_pos_iff.mpr hs)).mpr (ofDigitChars_lt h)

end Xbase.Number
