import Xbase.Number.Decimal
import Xbase.Proofs.Number.Rounding
/-!
# Decimals

What a decimal is worth, and what an arithmetic of decimals is known to do. Where it rounds to the nearest and a half
to even, it gives the nearest multiple of a power of ten, and of two that are equally near the even one.
-/
namespace Xbase.Number

/-- Whether a rational has no more than the given number of decimal places. -/
def IsMultiple (places : ℕ) (a : ℚ) : Prop := ∃ n : ℤ, a = n / 10 ^ places

/-- The multiple of a power of ten that is nearest to a rational. Of two that are equally near it is the one that is
an even multiple. -/
structure RoundsTo (places : ℕ) (a b : ℚ) : Prop where
  isMultiple : IsMultiple places b
  near : |b - a| ≤ 1 / 2 / 10 ^ places
  even_of_tie : |b - a| = 1 / 2 / 10 ^ places → ∃ n : ℤ, Even n ∧ b = n / 10 ^ places

theorem roundsTo_div_iff {places : ℕ} {a : ℚ} {n : ℤ} :
    RoundsTo places a (n / 10 ^ places) ↔ IsHalfEven (a * 10 ^ places) n := by
  have hunit : (0 : ℚ) < 10 ^ places := by positivity
  have hdist : |(n : ℚ) / 10 ^ places - a| = |(n : ℚ) - a * 10 ^ places| / 10 ^ places := by
    rw [← abs_of_pos hunit, ← abs_div, abs_of_pos hunit, sub_div, mul_div_cancel_right₀ _ hunit.ne']
  constructor
  · intro h
    obtain ⟨-, hnear, heven⟩ := h
    rw [hdist] at hnear heven
    refine ⟨(div_le_div_iff_of_pos_right hunit).mp hnear, fun htie => ?_⟩
    obtain ⟨m, hm, hmn⟩ := heven (congrArg (· / 10 ^ places) htie)
    have hsame : n = m := by exact_mod_cast (div_left_inj' hunit.ne').mp hmn
    rwa [hsame]
  · intro h
    refine ⟨⟨n, rfl⟩, ?_, fun htie => ?_⟩
    · rw [hdist]
      exact (div_le_div_iff_of_pos_right hunit).mpr h.near
    · rw [hdist, div_left_inj' hunit.ne'] at htie
      exact ⟨n, h.even_of_tie htie, rfl⟩

namespace RoundsTo

variable {places : ℕ} {a a' b b' : ℚ}

private theorem exists_isHalfEven (h : RoundsTo places a b) :
    ∃ n : ℤ, b = n / 10 ^ places ∧ IsHalfEven (a * 10 ^ places) n := by
  obtain ⟨n, rfl⟩ := h.isMultiple
  exact ⟨n, rfl, roundsTo_div_iff.mp h⟩

theorem mono (h : RoundsTo places a b) (h' : RoundsTo places a' b') (haa' : a ≤ a') : b ≤ b' := by
  obtain ⟨n, rfl, hn⟩ := h.exists_isHalfEven
  obtain ⟨m, rfl, hm⟩ := h'.exists_isHalfEven
  have hscaled : a * 10 ^ places ≤ a' * 10 ^ places := by gcongr
  have hnm : (n : ℚ) ≤ m := by exact_mod_cast hn.mono hm hscaled
  gcongr

theorem refl (h : IsMultiple places a) : RoundsTo places a a := by
  obtain ⟨n, rfl⟩ := h
  rw [roundsTo_div_iff, div_mul_cancel₀ _ (by positivity)]
  exact IsHalfEven.intCast n

theorem unique (h : RoundsTo places a b) (h' : RoundsTo places a b') : b = b' :=
  le_antisymm (h.mono h' le_rfl) (h'.mono h le_rfl)

theorem eq_of_isMultiple (h : RoundsTo places a b) (ha : IsMultiple places a) : b = a := h.unique (refl ha)

end RoundsTo

namespace Decimal

variable {d : Decimal} {places : ℕ}

def signFactor (d : Decimal) : ℤ := if d.negative then -1 else 1

def value (d : Decimal) : ℚ := (d.signFactor * d.coefficient : ℤ) / 10 ^ d.scale

private theorem pow10_cast (n : ℕ) : (pow10 n : ℚ) = 10 ^ n := by
  rw [pow10, Nat.pow_eq, Nat.cast_pow, Nat.cast_ofNat]

private theorem isMultiple_value (h : d.scale ≤ places) : IsMultiple places d.value := by
  refine ⟨d.signFactor * d.coefficient * 10 ^ (places - d.scale), ?_⟩
  rw [value, div_eq_div_iff (by positivity) (by positivity)]
  push_cast
  rw [mul_assoc _ (10 ^ (places - d.scale)), ← pow_add, Nat.sub_add_cancel h]

private theorem value_mul_pow (h : places ≤ d.scale) :
    d.value * 10 ^ places = d.signFactor * ((d.coefficient : ℚ) / pow10 (d.scale - places)) := by
  rw [value, pow10_cast, ← mul_div_assoc, div_mul_eq_mul_div, div_eq_div_iff (by positivity) (by positivity)]
  push_cast
  rw [mul_assoc _ (10 ^ places), ← pow_add, Nat.add_sub_cancel' h]

end Decimal

namespace Binary

def absValue {f : Format} (x : Binary f) : ℚ := x.significand * 2 ^ x.exponent

end Binary

namespace DecimalArithmetic

section Laws

variable [DecimalArithmetic]

/-- A strategy goes to the neighbour that is further from zero exactly where the cut is of a certain kind. -/
structure RoundsAway (strategy : Rounding) (away : Decimal.Cut → Prop) : Prop where
  further : ∀ (d : Decimal) (places : ℕ), places < d.scale → away (d.cut places) →
    (round strategy d places).value = (d.signFactor * ((d.cut places).whole + 1) : ℤ) / 10 ^ places
  nearer : ∀ (d : Decimal) (places : ℕ), places < d.scale → ¬ away (d.cut places) →
    (round strategy d places).value = (d.signFactor * (d.cut places).whole : ℤ) / 10 ^ places

/-- What is known of an arithmetic of decimals: which binary values have one, that rounding leaves a decimal alone that
has no more places and gives any other exactly as many, and which neighbour each strategy goes to. -/
structure Lawful : Prop where
  ofBinary?_eq_none_iff : ∀ x, ofBinary? x = none ↔ x.isFinite = false ∨ 2 ^ 96 ≤ x.absValue
  round_of_scale_le : ∀ strategy {d : Decimal} {places : ℕ}, d.scale ≤ places → round strategy d places = d
  scale_round : ∀ strategy {d : Decimal} {places : ℕ}, places < d.scale → (round strategy d places).scale = places
  nearestEven : RoundsAway .nearestEven fun c => c.unit < 2 * c.rest ∨ 2 * c.rest = c.unit ∧ Odd c.whole
  nearestAwayFromZero : RoundsAway .nearestAwayFromZero fun c => c.unit ≤ 2 * c.rest
  nearestTowardZero : RoundsAway .nearestTowardZero fun c => c.unit < 2 * c.rest
  towardZero : RoundsAway .towardZero fun _ => False
  awayFromZero : RoundsAway .awayFromZero fun c => 0 < c.rest
  downward : RoundsAway .downward fun c => c.negative = true ∧ 0 < c.rest
  upward : RoundsAway .upward fun c => c.negative = false ∧ 0 < c.rest

end Laws

namespace Lawful

variable [DecimalArithmetic] (laws : Lawful) (strategy : Rounding) (d : Decimal) (places : ℕ)
include laws

private theorem scale_round_le : (round strategy d places).scale ≤ places := by
  by_cases hscale : d.scale ≤ places
  · rwa [laws.round_of_scale_le strategy hscale]
  · exact (laws.scale_round strategy (not_le.mp hscale)).le

theorem round_round : round strategy (round strategy d places) places = round strategy d places :=
  laws.round_of_scale_le strategy (laws.scale_round_le strategy d places)

private theorem value_round_nearestEven {d : Decimal} {places : ℕ} (h : places < d.scale) :
    (round .nearestEven d places).value =
      (d.signFactor * halfEven d.coefficient (pow10 (d.scale - places)) : ℤ) / 10 ^ places := by
  have hfurther := laws.nearestEven.further d places h
  have hnearer := laws.nearestEven.nearer d places h
  simp only [Decimal.cut, Nat.odd_iff] at hfurther hnearer
  unfold halfEven
  extract_lets q r
  split_ifs with hlow hhigh heven
  · exact hnearer (by omega)
  · exact hfurther (.inl hhigh)
  · exact hnearer (by omega)
  · exact hfurther (.inr ⟨by omega, by omega⟩)

theorem roundsTo_round : RoundsTo places d.value (round .nearestEven d places).value := by
  by_cases hscale : d.scale ≤ places
  · rw [laws.round_of_scale_le .nearestEven hscale]
    exact .refl (Decimal.isMultiple_value hscale)
  · have hlt := not_le.mp hscale
    have hpos : 0 < pow10 (d.scale - places) := Nat.pow_pos (by decide)
    have hmagnitude := isHalfEven_halfEven d.coefficient hpos
    rw [laws.value_round_nearestEven hlt, roundsTo_div_iff, Decimal.value_mul_pow hlt.le, Decimal.signFactor]
    split
    · have hneg := hmagnitude.neg
      rw [← neg_one_mul, ← neg_one_mul (halfEven _ _ : ℤ)] at hneg
      exact_mod_cast hneg
    · rw [Int.cast_one, one_mul, one_mul]
      exact hmagnitude

end Lawful

end DecimalArithmetic

end Xbase.Number
