import Mathlib.Data.Nat.Digits.Defs
import Xbase.Proofs.Number.Notation
import Xbase.Proofs.Text
/-!
# The grammar of integers

A text denotes an integer if it is made of digits with one sign in front at most. It is read in a width exactly if
that integer is one of the width's, so what a narrower width reads is read the same in a wider one.
-/
namespace Xbase.Number

def IsDigits (s : List Char) : Prop := s ≠ [] ∧ ∀ c ∈ s, c.isDigit = true

/-- The value of digits by their places, the last of which counts once. -/
def digitsValue (s : List Char) : Nat := Nat.ofDigits 10 (s.reverse.map fun c => c.toNat - '0'.toNat)

inductive Denotes : List Char → Int → Prop where
  | plain {s : List Char} (h : IsDigits s) : Denotes s (digitsValue s)
  | plus {s : List Char} (h : IsDigits s) : Denotes ('+' :: s) (digitsValue s)
  | minus {s : List Char} (h : IsDigits s) : Denotes ('-' :: s) (-(digitsValue s : Int))

variable {s : List Char} {v : Int} {w w' : IntWidth}

private theorem digitsValue_eq (s : List Char) : digitsValue s = Nat.ofDigitChars 10 s 0 := by
  induction s with
  | nil => rfl
  | cons c s ih =>
    rw [ofDigitChars_cons, ← ih, digitsValue, digitsValue, List.reverse_cons, List.map_append,
      Nat.ofDigits_append, List.map_singleton, Nat.ofDigits_singleton, List.length_map, List.length_reverse,
      Nat.add_comm]
    rfl

theorem natOfText?_eq_some_iff {n : Nat} : natOfText? s = some n ↔ IsDigits s ∧ digitsValue s = n := by
  rw [digitsValue_eq]
  constructor
  · intro h
    obtain ⟨hne, hdigits, hn⟩ := eq_of_natOfText? h
    exact ⟨⟨hne, hdigits⟩, hn⟩
  · intro h
    obtain ⟨⟨hne, hdigits⟩, hn⟩ := h
    rw [natOfText?, if_pos ⟨hne, List.all_eq_true.mpr hdigits⟩, hn]

private theorem exists_of_intOfText? {digits : List Char} {negative : Bool} (h : intOfText? s = some v)
    (hs : splitSign s = (negative, digits)) :
    IsDigits digits ∧ v = if negative then -(digitsValue digits : Int) else digitsValue digits := by
  simp only [intOfText?, hs] at h
  cases hn : natOfText? digits with
  | none =>
    rw [hn] at h
    cases h
  | some n =>
    obtain ⟨hdigits, rfl⟩ := natOfText?_eq_some_iff.mp hn
    rw [hn] at h
    exact ⟨hdigits, (Option.some.inj h).symm⟩

theorem intOfText?_eq_some_iff : intOfText? s = some v ↔ Denotes s v := by
  constructor
  · intro h
    obtain ⟨t, rfl, hsplit⟩ | ⟨t, rfl, hsplit⟩ | hsplit := splitSign_cases s
    all_goals obtain ⟨hdigits, rfl⟩ := exists_of_intOfText? h hsplit
    · exact .minus hdigits
    · exact .plus hdigits
    · exact .plain hdigits
  · intro h
    cases h with
    | plain h =>
      exact intOfText?_of_splitSign (splitSign_of_digits h.2) (natOfText?_eq_some_iff.mpr ⟨h, rfl⟩)
    | plus h => exact intOfText?_of_splitSign rfl (natOfText?_eq_some_iff.mpr ⟨h, rfl⟩)
    | minus h => exact intOfText?_of_splitSign rfl (natOfText?_eq_some_iff.mpr ⟨h, rfl⟩)

theorem Denotes.unique {v' : Int} (h : Denotes s v) (h' : Denotes s v') : v = v' :=
  Option.some.inj ((intOfText?_eq_some_iff.mpr h).symm.trans (intOfText?_eq_some_iff.mpr h'))

theorem denotes_intText (v : Int) : Denotes (intText v) v := intOfText?_eq_some_iff.mp (intOfText?_intText v)

theorem IntWidth.ofText?_eq_some_iff : w.ofText? s = some v ↔ Denotes s v ∧ w.Holds v := by
  rw [ofText?, Option.filter_eq_some_iff, intOfText?_eq_some_iff, decide_eq_true_iff]

theorem IntWidth.Holds.mono (h : w.Holds v) (hbits : w.bits ≤ w'.bits) : w'.Holds v := by
  have hpow : pow2 (w.bits - 1) ≤ pow2 (w'.bits - 1) :=
    Nat.pow_le_pow_right Nat.two_pos (Nat.sub_le_sub_right hbits 1)
  unfold Holds at h ⊢
  omega

private theorem isBlank_of_mem_intText {c : Char} (h : c ∈ intText v) : Text.isBlank c = false := by
  unfold intText at h
  split at h
  · cases h with
    | head => decide
    | tail _ h => exact isBlank_of_isDigit (isDigit_of_mem_natText h)
  · exact isBlank_of_isDigit (isDigit_of_mem_natText h)

theorem trim_intText {front back : List Char} (hfront : ∀ c ∈ front, Text.isBlank c = true)
    (hback : ∀ c ∈ back, Text.isBlank c = true) : Text.trim (front ++ intText v ++ back) = intText v := by
  rw [Text.trim, Text.trimBoth_append_right hback, Text.trimBoth_append_left hfront,
    Text.trimBoth_eq_self_iff, Option.any_eq_false, Option.any_eq_false]
  constructor
  · intro c hc
    simpa using isBlank_of_mem_intText (List.mem_of_mem_head? hc)
  · intro c hc
    simpa using isBlank_of_mem_intText (List.mem_of_mem_getLast? hc)

end Xbase.Number
