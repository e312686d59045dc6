import Xbase.Number.Decimal96
import Xbase.Proofs.Number.Decimal
/-!
# Decimals of 96 bits

The arithmetic of decimals with coefficients of 96 bits does what is known of one. The binary values that have a
decimal are those that are finite and less than the bound of the coefficients, because powers of two are taken in as
long as there is room.
-/
namespace Xbase.Number

namespace Decimal

private theorem takeHalvings_snd_le (halvings m : ℕ) (e : ℤ) : (takeHalvings halvings (m, e)).2 ≤ e + halvings := by
  induction halvings generalizing m e with
  | zero => exact (add_zero e).ge
  | succ halvings ih =>
    rw [takeHalvings]
    push_cast
    split_ifs
    · linarith [ih (m / 2) (e + 1)]
    · linarith [ih (5 * m) e]
    · linarith [ih (m / 2) (e + 1)]

private theorem takeDoublings_eq {m : ℕ} (hm : m < coefficientBound) (doublings : ℕ) :
    takeDoublings doublings (m, doublings) =
      if m * 2 ^ doublings < coefficientBound then some (m * 2 ^ doublings, 0) else none := by
  induction doublings generalizing m with
  | zero => simp [takeDoublings, hm]
  | succ doublings ih =>
    have hbound : coefficientBound / 2 + coefficientBound / 2 = coefficientBound := by decide
    have hpow : m * 2 ^ (doublings + 1) = 2 * m * 2 ^ doublings := by ring
    rw [takeDoublings]
    by_cases hroom : m < coefficientBound / 2
    · have hexponent : ((doublings + 1 : ℕ) : ℤ) - 1 = doublings := by omega
      have hdouble : 2 * m < coefficientBound := by omega
      rw [if_pos hroom, hexponent, ih hdouble, hpow]
    · have hgreat : coefficientBound ≤ m * 2 ^ (doublings + 1) := calc
        coefficientBound
        _ ≤ 2 * m := by omega
        _ ≤ 2 * m * 2 ^ doublings := Nat.le_mul_of_pos_right _ (by positivity)
        _ = m * 2 ^ (doublings + 1) := hpow.symm
      have hpower : 2 * ((doublings + 1 : ℕ) : ℤ) > doublings + 1 := by omega
      rw [if_neg hroom, if_pos hpower, if_neg (not_lt.mpr hgreat)]

end Decimal

namespace Binary

private theorem significand_lt {f : Format} (x : Binary f) : x.significand < 2 * pow2 f.fractionBits := by
  have hpos : 0 < pow2 f.fractionBits := Nat.pow_pos (by decide)
  have hmod := Nat.mod_lt x.magnitude hpos
  unfold significand
  split
  · rename_i hzero
    have hlt : x.magnitude < pow2 f.fractionBits := (Nat.div_eq_zero_iff_lt hpos).mp hzero
    omega
  · omega

end Binary

namespace Decimal

variable {x : Binary64}

private theorem significand_lt_coefficientBound (x : Binary64) : x.significand < coefficientBound :=
  x.significand_lt.trans (by decide)

private theorem magnitude_ne_zero_of_exponent_pos (he : 0 < x.exponent) : x.magnitude ≠ 0 := by
  intro hzero
  have hexponent : x.exponent = Format.minExponent .double := by
    rw [Binary.exponent, Binary.exponentField, hzero, Nat.zero_div]
    rfl
  rw [hexponent] at he
  exact absurd he (by decide)

private theorem ofBinary?_of_finite (hfinite : x.isFinite = true) (hzero : x.magnitude ≠ 0) :
    ofBinary? x =
      (if x.exponent ≤ 0 then some (takeHalvings (-x.exponent).toNat (x.significand, x.exponent))
        else takeDoublings x.exponent.toNat (x.significand, x.exponent)).bind fun s =>
          if s.2 ≤ 0 then some (ofPlaces x.negative s.1 (-s.2).toNat)
          else (takeTens s.2.toNat s.1).bind fun m => some ⟨x.negative, m, 0⟩ := by
  have hnot : ¬ (!x.isFinite) = true := by rw [hfinite]; decide
  unfold ofBinary?
  rw [if_neg hnot, if_neg hzero]
  by_cases he : x.exponent ≤ 0
  · simp only [if_pos he]
    rfl
  · simp only [if_neg he]
    rfl

private theorem ofBinary?_of_exponent_pos (hfinite : x.isFinite = true) (he : 0 < x.exponent) :
    ofBinary? x =
      if x.significand * 2 ^ x.exponent.toNat < coefficientBound then
        some (ofPlaces x.negative (x.significand * 2 ^ x.exponent.toNat) 0)
      else none := by
  have hzero := magnitude_ne_zero_of_exponent_pos he
  obtain ⟨n, hn⟩ := Int.eq_ofNat_of_zero_le he.le
  have htake := takeDoublings_eq (significand_lt_coefficientBound x) n
  rw [ofBinary?_of_finite hfinite hzero, if_neg (not_le.mpr he), hn, Int.toNat_natCast, htake]
  split_ifs <;> rfl

private theorem ofBinary?_of_exponent_nonpos (hfinite : x.isFinite = true) (he : x.exponent ≤ 0) :
    ∃ d, ofBinary? x = some d := by
  by_cases hzero : x.magnitude = 0
  · exact ⟨⟨x.negative, 0, 0⟩, by simp [ofBinary?, hfinite, hzero]⟩
  have htake : (takeHalvings (-x.exponent).toNat (x.significand, x.exponent)).2 ≤ 0 := by
    have hle := takeHalvings_snd_le (-x.exponent).toNat x.significand x.exponent
    omega
  rw [ofBinary?_of_finite hfinite hzero, if_pos he, Option.bind_some, if_pos htake]
  exact ⟨_, rfl⟩

/-- A binary value has a decimal exactly if it is finite and less than the bound of the coefficients. -/
theorem ofBinary?_eq_none_iff :
    ofBinary? x = none ↔ x.isFinite = false ∨ 2 ^ 96 ≤ x.absValue := by
  have hbound : (2 : ℚ) ^ 96 = (coefficientBound : ℕ) := by
    rw [coefficientBound, pow2]
    norm_num
  cases hfinite : x.isFinite with
  | false => simp [ofBinary?, hfinite]
  | true =>
    by_cases he : x.exponent ≤ 0
    · obtain ⟨d, hd⟩ := ofBinary?_of_exponent_nonpos hfinite he
      have hsmall : x.absValue < 2 ^ 96 := calc
        x.absValue
        _ ≤ x.significand * 1 := by
          unfold Binary.absValue
          gcongr
          exact zpow_le_one_of_nonpos₀ one_le_two he
        _ = x.significand := mul_one _
        _ < 2 ^ 96 := by
          rw [hbound]
          exact_mod_cast significand_lt_coefficientBound x
      simp [hd, hsmall]
    · have hpower : (2 : ℚ) ^ x.exponent = (2 ^ x.exponent.toNat : ℕ) := by
        rw [← Int.toNat_of_nonneg (not_le.mp he).le, zpow_natCast, Int.toNat_natCast]
        norm_cast
      have habs : x.absValue = (x.significand * 2 ^ x.exponent.toNat : ℕ) := by
        rw [Binary.absValue, hpower, Nat.cast_mul]
      rw [ofBinary?_of_exponent_pos hfinite (not_le.mp he), habs, hbound, Nat.cast_le]
      split_ifs with hroom
      · simp [hroom]
      · simp [not_lt.mp hroom]

end Decimal

namespace Decimal

variable {d : Decimal} {places : ℕ}

private theorem value_round_of_lt (strategy : Rounding) (h : places < d.scale) :
    (d.round strategy places).value =
      (d.signFactor *
        (if strategy.isAway (d.cut places) then (d.cut places).whole + 1 else (d.cut places).whole : ℕ) : ℤ) /
          10 ^ places := by
  rw [round, if_neg (not_le.mpr h)]
  change value
    ⟨_, if strategy.isAway (d.cut places) then (d.cut places).whole + 1 else (d.cut places).whole, places⟩ = _
  generalize (if strategy.isAway (d.cut places) then (d.cut places).whole + 1 else (d.cut places).whole) = m
  rw [value]
  congr 2
  unfold signFactor
  by_cases hzero : m = 0
  · simp [hzero]
  · simp [hzero]

private theorem roundsAway_of_isAway {strategy : Rounding} {away : Cut → Prop}
    (h : ∀ c, strategy.isAway c = true ↔ away c) : DecimalArithmetic.RoundsAway strategy away where
  further d places hlt haway := by
    change (d.round strategy places).value = _
    rw [value_round_of_lt strategy hlt, if_pos ((h _).mpr haway), Nat.cast_succ]
  nearer d places hlt hnot := by
    change (d.round strategy places).value = _
    rw [value_round_of_lt strategy hlt, if_neg (mt (h _).mp hnot)]

end Decimal

open Decimal in
/-- Decimals of 96 bits do what is known of an arithmetic of decimals. -/
theorem decimal96_lawful : DecimalArithmetic.Lawful where
  ofBinary?_eq_none_iff _ := ofBinary?_eq_none_iff
  round_of_scale_le _ _ _ h := if_pos h
  scale_round strategy d places h := by
    change (d.round strategy places).scale = places
    rw [Decimal.round, if_neg (not_le.mpr h)]
  nearestEven := roundsAway_of_isAway fun c => by simp [Rounding.isAway, Nat.odd_iff]
  nearestAwayFromZero := roundsAway_of_isAway fun c => by simp [Rounding.isAway]
  nearestTowardZero := roundsAway_of_isAway fun c => by simp [Rounding.isAway]
  towardZero := roundsAway_of_isAway fun c => by simp [Rounding.isAway]
  awayFromZero := roundsAway_of_isAway fun c => by simp [Rounding.isAway]
  downward := roundsAway_of_isAway fun c => by simp [Rounding.isAway]
  upward := roundsAway_of_isAway fun c => by simp [Rounding.isAway]

end Xbase.Number
