import BuildIntake.Proofs.Number.Rounding

/-!
# Rounding of equal ratios

Rounding depends on a ratio alone and not on the two numbers that it is given by. A decimal is
therefore rounded as the rational that it denotes, also where its length settles the outcome.
-/

namespace BuildIntake.Number

theorem divNearest_mul_left {k : Nat} (positive : 0 < k) (n d : Nat) :
    divNearest (k * n) (k * d) = divNearest n d := by
  have below (r : Nat) : 2 * (k * r) < k * d ↔ 2 * r < d := by
    rw [Nat.mul_left_comm, Nat.mul_lt_mul_left positive]
  have above (r : Nat) : k * d < 2 * (k * r) ↔ d < 2 * r := by
    rw [Nat.mul_left_comm, Nat.mul_lt_mul_left positive]
  unfold divNearest
  simp only [Nat.mul_div_mul_left _ _ positive, Nat.mul_mod_mul_left, below, above]

section

variable {n d n' d' : Nat} (positive : 0 < d) (positive' : 0 < d')
include positive positive'

theorem divNearest_congr (same : (n : ℚ) / d = n' / d') : divNearest n d = divNearest n' d' := by
  have crossed : d' * n = d * n' := by
    rw [div_eq_div_iff (by positivity) (by positivity)] at same
    have : (d' * n : ℚ) = d * n' := by linarith
    exact_mod_cast this
  calc divNearest n d = divNearest (d' * n) (d' * d) := (divNearest_mul_left positive' n d).symm
    _ = divNearest (d * n') (d * d') := by rw [crossed, Nat.mul_comm d' d]
    _ = divNearest n' d' := divNearest_mul_left positive n' d'

theorem binade_congr (nonzero : n ≠ 0) (nonzero' : n' ≠ 0) (same : (n : ℚ) / d = n' / d') :
    binade n d = binade n' d' := by
  obtain ⟨least, below⟩ := binade_spec nonzero positive
  obtain ⟨least', below'⟩ := binade_spec nonzero' positive'
  rw [same] at least below
  have upper := (zpow_lt_zpow_iff_right₀ one_lt_two).mp (least.trans_lt below')
  have lower := (zpow_lt_zpow_iff_right₀ one_lt_two).mp (least'.trans_lt below)
  omega

namespace Binary64

theorem roundRatio_congr (same : (n : ℚ) / d = n' / d') (negative : Bool) :
    roundRatio negative n d = roundRatio negative n' d' := by
  have zero_iff : n = 0 ↔ n' = 0 := by
    have : (n : ℚ) / d = 0 ↔ (n' : ℚ) / d' = 0 := by rw [same]
    simpa [positive.ne', positive'.ne'] using this
  by_cases zero : n = 0
  · rw [roundRatio, if_pos zero, roundRatio, if_pos (zero_iff.mp zero)]
  · have nonzero' : n' ≠ 0 := fun zero' => zero (zero_iff.mpr zero')
    have unit : unitExponent n d = unitExponent n' d' := by
      rw [unitExponent, unitExponent, binade_congr positive positive' zero nonzero' same]
    have digits : significand n d = significand n' d' := by
      unfold significand
      apply divNearest_congr (by positivity) (by positivity)
      rw [scaled_div_eq positive, scaled_div_eq positive', unit, same]
    rw [roundRatio_eq zero, roundRatio_eq nonzero', unit, digits]

end Binary64

end

namespace Binary64

theorem round_div (n : Nat) {d : Nat} (positive : 0 < d) :
    round ((n : ℚ) / d) = roundRatio false n d := by
  have nonneg : (0 : ℚ) ≤ n / d := by positivity
  unfold round
  rw [decide_eq_false nonneg.not_gt]
  apply roundRatio_congr (Rat.pos _) positive
  rw [natAbs_num_div_den, abs_of_nonneg nonneg]

/-- Below half of the least positive double, a ratio is rounded to zero. -/
theorem roundRatio_of_tiny {n d : Nat} (positive : 0 < d) (tiny : (n : ℚ) / d < 2 ^ (-1075 : ℤ))
    (negative : Bool) : roundRatio negative n d = .signedZero negative := by
  by_cases zero : n = 0
  · rw [roundRatio, if_pos zero]
  · have unit : (-1074 : ℤ) ≤ unitExponent n d := le_max_right _ _
    have half : (n : ℚ) / d / 2 ^ unitExponent n d < 1 / 2 := by
      rw [div_lt_iff₀ (by positivity)]
      calc (n : ℚ) / d < 2 ^ (-1075 : ℤ) := tiny
        _ = 1 / 2 * 2 ^ (-1074 : ℤ) := by
          rw [show (-1075 : ℤ) = -1 + -1074 from rfl, zpow_add₀ two_ne_zero, zpow_neg_one, one_div]
        _ ≤ 1 / 2 * 2 ^ unitExponent n d := by
          gcongr
          exact one_le_two
    have below : (significand n d : ℚ) < (1 : Nat) := by
      have := significand_le_add_half (n := n) positive
      push_cast
      linarith
    have none : significand n d = 0 := Nat.lt_one_iff.mp (by exact_mod_cast below)
    rw [roundRatio_eq zero, if_pos none]

end Binary64

namespace Decimal

open Binary64

theorem tiny_of_width {d : Decimal} (short : d.exponent + width d.digits < -400) :
    d.toRat < 2 ^ (-1075 : ℤ) := by
  calc d.toRat ≤ 10 ^ (d.exponent + width d.digits) := toRat_le_of_width d
    _ ≤ 10 ^ (-400 : ℤ) := zpow_le_zpow_right₀ (by norm_num) short.le
    _ ≤ (2 ^ (3 : ℤ)) ^ (-400 : ℤ) := by
      rw [zpow_neg, zpow_neg]
      gcongr ?_⁻¹
      exact zpow_le_zpow_left₀ (by decide) (by positivity) (by norm_num)
    _ = 2 ^ (-1200 : ℤ) := (zpow_mul ..).symm
    _ < 2 ^ (-1075 : ℤ) := zpow_lt_zpow_right₀ one_lt_two (by decide)

/-- A decimal is rounded to the double nearest to what it denotes. -/
theorem round_eq (d : Decimal) : round false d = Binary64.round d.toRat := by
  have positive : 0 < Nat.pow 10 (-d.exponent).toNat := Nat.pow_pos (by decide)
  have ratio : d.toRat = (d.digits * Nat.pow 10 d.exponent.toNat : Nat) /
      (Nat.pow 10 (-d.exponent).toNat : Nat) := by
    rw [toRat, Rat.mkRat_eq_div, Int.cast_natCast]
  rw [ratio, round_div _ positive, round]
  split_ifs with none long short
  · rw [none, Nat.zero_mul, roundRatio, if_pos rfl]
  · exact (roundRatio_of_le positive (ratio ▸ limit_le_of_exponent none long) false).symm
  · exact (roundRatio_of_tiny positive (ratio ▸ tiny_of_width short) false).symm
  · rfl

end Decimal

end BuildIntake.Number
