import Mathlib.Algebra.Order.Field.Basic
import Mathlib.Algebra.Order.Field.Rat
import Mathlib.Algebra.Ring.Int.Parity
import Mathlib.Data.Rat.Cast.Order
import Mathlib.Tactic.Linarith
import Mathlib.Tactic.FieldSimp
import Mathlib.Tactic.NormNum
import Mathlib.Tactic.Ring
import Xbase.Number.Rounding
/-!
# Rounding to an integer

The rounded quotient is the integer nearest to the quotient, and the even one of two that are equally near. Such
integers are in the order of the rationals, and an integer is its own.
-/
namespace Xbase.Number

/-- An integer nearest to a rational, the even one if another is equally near. -/
structure IsHalfEven (x : ℚ) (n : ℤ) : Prop where
  near : |(n : ℚ) - x| ≤ 1 / 2
  even_of_tie : |(n : ℚ) - x| = 1 / 2 → Even n

namespace IsHalfEven

variable {x y : ℚ} {m n : ℤ}

theorem neg (h : IsHalfEven x n) : IsHalfEven (-x) (-n) := by
  have hdist : |((-n : ℤ) : ℚ) - -x| = |(n : ℚ) - x| := by
    rw [← abs_neg ((n : ℚ) - x), Int.cast_neg, neg_sub']
  exact ⟨hdist.trans_le h.near, fun htie => (h.even_of_tie (hdist.symm.trans htie)).neg⟩

theorem intCast (n : ℤ) : IsHalfEven n n := by
  constructor <;> norm_num

/-- Rounding keeps the order. Two integers can be in the wrong order only as the neighbours of one tie, and one of
them is odd. -/
theorem mono (h : IsHalfEven x n) (h' : IsHalfEven y m) (hxy : x ≤ y) : n ≤ m := by
  by_contra hlt
  have hstep : m + 1 ≤ n := Int.lt_iff_add_one_le.mp (not_le.mp hlt)
  have hstep' : (m : ℚ) + 1 ≤ n := by exact_mod_cast hstep
  obtain ⟨-, hupper⟩ := abs_le.mp h.near
  obtain ⟨hlower, -⟩ := abs_le.mp h'.near
  have hn : (n : ℚ) - x = 1 / 2 := by linarith
  have hm : (m : ℚ) - y = -(1 / 2) := by linarith
  have hsucc : n = m + 1 := by
    have hcast : (n : ℚ) = m + 1 := by linarith
    exact_mod_cast hcast
  have heven : Even n := h.even_of_tie (by rw [hn]; norm_num)
  have heven' : Even m := h'.even_of_tie (by rw [hm]; norm_num)
  rw [hsucc, Int.even_add_one] at heven
  exact heven heven'

end IsHalfEven

private theorem abs_sub_div (n num : ℤ) {den : ℕ} (h : 0 < den) :
    |(n : ℚ) - num / den| = (|2 * (n * den - num)| : ℤ) / (2 * den) := by
  have hden : (0 : ℚ) < den := by exact_mod_cast h
  have hdist : (n : ℚ) - num / den = (2 * (n * den - num) : ℤ) / (2 * den) := by
    push_cast
    field_simp
  rw [hdist, abs_div, abs_of_pos (by positivity : (0 : ℚ) < 2 * den), Int.cast_abs]

private theorem isHalfEven_div_iff {n num : ℤ} {den : ℕ} (h : 0 < den) :
    IsHalfEven (num / den) n ↔
      |2 * (n * den - num)| ≤ den ∧ (|2 * (n * den - num)| = den → Even n) := by
  have hden : (0 : ℚ) < 2 * den := by exact_mod_cast Nat.mul_pos two_pos h
  have hhalf : (1 : ℚ) / 2 * (2 * den) = (den : ℤ) := by
    push_cast
    ring
  have hnear : |(n : ℚ) - num / den| ≤ 1 / 2 ↔ |2 * (n * den - num)| ≤ den := by
    rw [abs_sub_div n num h, div_le_iff₀ hden, hhalf, Int.cast_le]
  have htie : |(n : ℚ) - num / den| = 1 / 2 ↔ |2 * (n * den - num)| = den := by
    rw [abs_sub_div n num h, div_eq_iff hden.ne', hhalf, Int.cast_inj]
  constructor
  · intro h
    exact ⟨hnear.mp h.near, fun ht => h.even_of_tie (htie.mpr ht)⟩
  · intro h
    exact ⟨hnear.mpr h.1, fun ht => h.2 (htie.mp ht)⟩

theorem isHalfEven_halfEven (num : ℕ) {den : ℕ} (h : 0 < den) :
    IsHalfEven (num / den) (halfEven num den : ℕ) := by
  have hr := Nat.mod_lt num h
  have hdown : ((num / den : ℕ) : ℤ) * den - num = -(num % den : ℕ) := by
    have hsplit := Nat.div_add_mod' num den
    omega
  have hup : ((num / den + 1 : ℕ) : ℤ) * den - num = den - (num % den : ℕ) := by
    rw [Nat.cast_add, Nat.cast_one, add_mul, one_mul, add_sub_right_comm, hdown, neg_add_eq_sub]
  have hint : IsHalfEven ((num : ℤ) / den) (halfEven num den : ℕ) ↔ _ := isHalfEven_div_iff h
  rw [Int.cast_natCast] at hint
  rw [hint, abs_le, abs_eq (Int.natCast_nonneg den)]
  unfold halfEven
  extract_lets q r
  split_ifs with hlow hhigh heven
  · rw [hdown]
    omega
  · rw [hup]
    omega
  · have hq : Even (q : ℤ) := Int.even_iff.mpr (by omega)
    rw [hdown]
    exact ⟨by omega, fun _ => hq⟩
  · have hq : Even ((q + 1 : ℕ) : ℤ) := Int.even_iff.mpr (by omega)
    rw [hup]
    exact ⟨by omega, fun _ => hq⟩

end Xbase.Number
