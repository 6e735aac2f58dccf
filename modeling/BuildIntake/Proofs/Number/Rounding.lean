import BuildIntake.Number.Decimal
import Mathlib.Algebra.Order.Field.Power
import Mathlib.Tactic.FieldSimp
import Mathlib.Tactic.Linarith
import Mathlib.Tactic.NormNum
import Mathlib.Tactic.Positivity
import Mathlib.Tactic.Ring

/-!
# The range of the doubles

A number is rounded to a finite double exactly if its magnitude lies below `Binary64.limit`, half a
unit above the greatest double; from there on it is rounded to infinity. The significand that is
found at the exponent of the unit decides it: below the limit it fits into the precision, with one
exception that is carried into the next binade.
-/

namespace BuildIntake.Number

theorem zpow_eq_div (b : ℚ) (e : ℤ) :
    b ^ e = b ^ e.toNat / b ^ (-e).toNat := by
  rcases Int.le_total 0 e with nonneg | nonpos
  · obtain ⟨k, rfl⟩ := Int.eq_ofNat_of_zero_le nonneg
    simp
  · obtain ⟨k, eq⟩ := Int.eq_ofNat_of_zero_le (Int.neg_nonneg.mpr nonpos)
    obtain rfl : e = -k := by omega
    simp

/-! ### The nearest whole number -/

section

variable {n d : Nat} (positive : 0 < d)
include positive

theorem mul_divNearest_le : 2 * (d * divNearest n d) ≤ 2 * n + d := by
  have split := Nat.div_add_mod n d
  have below := Nat.mod_lt n positive
  unfold divNearest
  dsimp only
  split_ifs with small large
  · omega
  · rw [Nat.mul_add]
    omega
  · rcases Nat.mod_two_eq_zero_or_one (n / d) with even | odd
    · rw [even, Nat.add_zero]
      omega
    · rw [odd, Nat.mul_add]
      omega

theorem le_mul_divNearest : 2 * n ≤ 2 * (d * divNearest n d) + d := by
  have split := Nat.div_add_mod n d
  have below := Nat.mod_lt n positive
  unfold divNearest
  dsimp only
  split_ifs with small large
  · omega
  · rw [Nat.mul_add]
    omega
  · rw [Nat.mul_add]
    omega

/-- From an odd number and a half on, the tie goes upwards. -/
theorem lt_divNearest {m : Nat} (odd : m % 2 = 1) (half : (m : ℚ) + 1 / 2 ≤ n / d) :
    m < divNearest n d := by
  have doubled : 2 * (d * m) + d ≤ 2 * n := by
    rw [le_div_iff₀ (by exact_mod_cast positive)] at half
    have : (2 * (d * m) + d : ℚ) ≤ 2 * n := by linarith
    exact_mod_cast this
  have split := Nat.div_add_mod n d
  have below := Nat.mod_lt n positive
  have least : m ≤ n / d := by
    rw [Nat.le_div_iff_mul_le positive, Nat.mul_comm]
    omega
  rcases Nat.lt_or_eq_of_le least with more | rfl
  · unfold divNearest
    dsimp only
    split_ifs <;> omega
  · unfold divNearest
    dsimp only
    split_ifs <;> omega

theorem divNearest_le_add_half : (divNearest n d : ℚ) ≤ n / d + 1 / 2 := by
  have bound : (2 * (d * divNearest n d) : ℚ) ≤ 2 * n + d := by
    exact_mod_cast mul_divNearest_le positive
  field_simp
  linarith

theorem le_divNearest_add_half : (n : ℚ) / d ≤ divNearest n d + 1 / 2 := by
  have bound : (2 * n : ℚ) ≤ 2 * (d * divNearest n d) + d := by
    exact_mod_cast le_mul_divNearest positive
  field_simp
  linarith

end

/-! ### The binade of a ratio -/

theorem two_zpow_le_div_iff {n d : Nat} (positive : 0 < d) (k : ℤ) :
    (2 : ℚ) ^ k ≤ n / d ↔ d * 2 ^ k.toNat ≤ n * 2 ^ (-k).toNat := by
  rw [zpow_eq_div, div_le_div_iff₀ (by positivity) (by exact_mod_cast positive),
    mul_comm (2 ^ k.toNat) (d : ℚ)]
  exact_mod_cast Iff.rfl

theorem binade_spec {n d : Nat} (nonzero : n ≠ 0) (positive : 0 < d) :
    (2 : ℚ) ^ binade n d ≤ n / d ∧ (n : ℚ) / d < 2 ^ (binade n d + 1) := by
  have n_least : (2 : ℚ) ^ (n.log2 : ℤ) ≤ n := by exact_mod_cast Nat.log2_self_le nonzero
  have n_below : (n : ℚ) < 2 ^ (n.log2 + 1 : ℤ) := by exact_mod_cast Nat.lt_log2_self
  have d_least : (2 : ℚ) ^ (d.log2 : ℤ) ≤ d := by
    exact_mod_cast Nat.log2_self_le (Nat.ne_of_gt positive)
  have d_below : (d : ℚ) < 2 ^ (d.log2 + 1 : ℤ) := by exact_mod_cast Nat.lt_log2_self
  have d_positive : (0 : ℚ) < d := by exact_mod_cast positive
  unfold binade
  dsimp only
  split_ifs with fits
  · refine ⟨(two_zpow_le_div_iff positive _).mpr fits, ?_⟩
    rw [div_lt_iff₀ d_positive]
    calc (n : ℚ) < 2 ^ (n.log2 + 1 : ℤ) := n_below
      _ = 2 ^ ((n.log2 : ℤ) - d.log2 + 1) * 2 ^ (d.log2 : ℤ) := by
        rw [← zpow_add₀ two_ne_zero]
        congr 1
        ring
      _ ≤ 2 ^ ((n.log2 : ℤ) - d.log2 + 1) * d := by gcongr
  · constructor
    · rw [le_div_iff₀ d_positive]
      calc (2 : ℚ) ^ ((n.log2 : ℤ) - d.log2 - 1) * d
          ≤ 2 ^ ((n.log2 : ℤ) - d.log2 - 1) * 2 ^ (d.log2 + 1 : ℤ) := by gcongr
        _ = 2 ^ (n.log2 : ℤ) := by
          rw [← zpow_add₀ two_ne_zero]
          congr 1
          ring
        _ ≤ n := n_least
    · rw [sub_add_cancel, ← not_le, two_zpow_le_div_iff positive]
      exact fits

namespace Binary64

/-- The least magnitude that is rounded to infinity, half a unit above the greatest double. -/
def limit : ℚ := (2 ^ 53 - 1 / 2) * 2 ^ (971 : ℤ)

theorem limit_lt : limit < 2 ^ (1024 : ℤ) := by
  rw [show (1024 : ℤ) = 53 + 971 from rfl, zpow_add₀ two_ne_zero]
  exact mul_lt_mul_of_pos_right (by norm_num) (by positivity)

theorem lt_limit : 2 ^ (1023 : ℤ) < limit := by
  rw [show (1023 : ℤ) = 52 + 971 from rfl, zpow_add₀ two_ne_zero]
  exact mul_lt_mul_of_pos_right (by norm_num) (by positivity)

/-- The significand of the double nearest to `n / d`, in units of its last place. -/
def significand (n d : Nat) : Nat :=
  divNearest (n * 2 ^ (-unitExponent n d).toNat) (d * 2 ^ (unitExponent n d).toNat)

def signed (negative : Bool) (q : ℚ) : ℚ := if negative then -q else q

theorem roundRatio_eq {n : Nat} (nonzero : n ≠ 0) (negative : Bool) (d : Nat) :
    roundRatio negative n d =
      if significand n d = 0 then .signedZero negative
      else if 2 ^ overflowExponent ≤ significand n d * 2 ^ (unitExponent n d).toNat then
        .infinite negative
      else .rational (signed negative (significand n d * 2 ^ unitExponent n d)) := by
  have unit : (mkRat (significand n d * 2 ^ (unitExponent n d).toNat : Nat)
      (2 ^ (-unitExponent n d).toNat)) = (significand n d : ℚ) * 2 ^ unitExponent n d := by
    rw [Rat.mkRat_eq_div, zpow_eq_div 2 (unitExponent n d)]
    push_cast
    ring
  rw [← unit]
  simp only [roundRatio, if_neg nonzero, Nat.pow_eq]
  congr

section

variable {n d : Nat} (nonzero : n ≠ 0) (positive : 0 < d)
include positive

theorem scaled_div_eq (e : ℤ) :
    ((n * 2 ^ (-e).toNat : Nat) : ℚ) / (d * 2 ^ e.toNat : Nat) = n / d / 2 ^ e := by
  rw [zpow_eq_div 2 e]
  push_cast
  field_simp

theorem significand_le_add_half :
    (significand n d : ℚ) ≤ n / d / 2 ^ unitExponent n d + 1 / 2 := by
  rw [← scaled_div_eq positive]
  exact divNearest_le_add_half (by positivity)

theorem le_significand_add_half :
    (n : ℚ) / d / 2 ^ unitExponent n d ≤ significand n d + 1 / 2 := by
  rw [← scaled_div_eq positive]
  exact le_divNearest_add_half (by positivity)

include nonzero

/-- A significand fits into the precision, or it is the first that does not. -/
theorem significand_le : significand n d ≤ 2 ^ 53 := by
  have unit : binade n d + 1 ≤ 53 + unitExponent n d := by
    unfold unitExponent precision
    omega
  have scaled : (n : ℚ) / d / 2 ^ unitExponent n d < 2 ^ 53 := by
    rw [div_lt_iff₀ (by positivity)]
    calc (n : ℚ) / d < 2 ^ (binade n d + 1) := (binade_spec nonzero positive).2
      _ ≤ 2 ^ (53 + unitExponent n d) := zpow_le_zpow_right₀ one_le_two unit
      _ = 2 ^ 53 * 2 ^ unitExponent n d := zpow_add₀ two_ne_zero _ _
  have below : (significand n d : ℚ) < (2 ^ 53 + 1 : Nat) := by
    have := significand_le_add_half (n := n) positive
    push_cast
    linarith
  exact Nat.le_of_lt_succ (by exact_mod_cast below)

/-- Below the limit, the significand is not carried beyond the greatest double. -/
theorem significand_mul_lt (small : (n : ℚ) / d < limit) :
    (significand n d : ℚ) * 2 ^ ((unitExponent n d).toNat : ℤ) < limit := by
  have least : (2 : ℚ) ^ binade n d < 2 ^ (1024 : ℤ) :=
    (binade_spec nonzero positive).1.trans_lt (small.trans limit_lt)
  have binade_lt := (zpow_lt_zpow_iff_right₀ one_lt_two).mp least
  have unit_le : unitExponent n d ≤ 971 := by
    unfold unitExponent precision leastExponent
    omega
  rcases Int.lt_or_eq_of_le unit_le with lower | top
  · have fits : (significand n d : ℚ) ≤ 2 ^ (53 : ℤ) := by
      exact_mod_cast significand_le nonzero positive
    calc (significand n d : ℚ) * 2 ^ ((unitExponent n d).toNat : ℤ)
        ≤ 2 ^ (53 : ℤ) * 2 ^ (970 : ℤ) := by
          gcongr
          · exact one_le_two
          · omega
      _ = 2 ^ (1023 : ℤ) := (zpow_add₀ two_ne_zero _ _).symm
      _ < limit := lt_limit
  · have bound := significand_le_add_half (n := n) positive
    have scaled : (n : ℚ) / d / 2 ^ unitExponent n d < 2 ^ 53 - 1 / 2 := by
      rw [top, div_lt_iff₀ (by positivity)]
      exact small
    have below : (significand n d : ℚ) < (2 ^ 53 : Nat) := by
      push_cast
      linarith
    have fits : (significand n d : ℚ) + 1 ≤ 2 ^ 53 := by
      exact_mod_cast Nat.succ_le_of_lt (Nat.cast_lt.mp below)
    rw [top]
    refine mul_lt_mul_of_pos_right ?_ (by positivity)
    linarith

/-- From the limit on, the significand is carried beyond the greatest double. -/
theorem le_significand_mul (large : limit ≤ (n : ℚ) / d) :
    2 ^ (1024 : ℤ) ≤ (significand n d : ℚ) * 2 ^ ((unitExponent n d).toNat : ℤ) := by
  have below : (2 : ℚ) ^ (1023 : ℤ) < 2 ^ (binade n d + 1) :=
    (lt_limit.trans_le large).trans (binade_spec nonzero positive).2
  have binade_gt := (zpow_lt_zpow_iff_right₀ one_lt_two).mp below
  have unit : unitExponent n d = binade n d - 52 := by
    unfold unitExponent precision leastExponent
    omega
  rcases Int.lt_or_eq_of_le (Int.le_of_lt_add_one binade_gt) with higher | top
  · have bound := le_significand_add_half (n := n) positive
    have scaled : (2 : ℚ) ^ 52 ≤ n / d / 2 ^ unitExponent n d := by
      rw [le_div_iff₀ (by positivity), unit]
      calc (2 : ℚ) ^ (52 : ℤ) * 2 ^ (binade n d - 52) = 2 ^ binade n d := by
            rw [← zpow_add₀ two_ne_zero, add_sub_cancel]
        _ ≤ n / d := (binade_spec nonzero positive).1
    have above : ((2 ^ 52 : Nat) : ℚ) < significand n d + 1 := by
      push_cast
      linarith
    have fits : (2 : ℚ) ^ (52 : ℤ) ≤ significand n d := by
      exact_mod_cast Nat.le_of_lt_succ (by exact_mod_cast above)
    have unit_le : (972 : ℤ) ≤ (unitExponent n d).toNat := by omega
    rw [show (1024 : ℤ) = 52 + 972 from rfl, zpow_add₀ two_ne_zero]
    exact mul_le_mul fits (zpow_le_zpow_right₀ one_le_two unit_le) (by positivity) (by positivity)
  · have unit_eq : unitExponent n d = 971 := by omega
    have half : ((2 ^ 53 - 1 : Nat) : ℚ) + 1 / 2 ≤ n / d / 2 ^ unitExponent n d := by
      rw [unit_eq, le_div_iff₀ (by positivity)]
      calc (((2 ^ 53 - 1 : Nat) : ℚ) + 1 / 2) * 2 ^ (971 : ℤ) = limit := by
            unfold limit
            norm_num
        _ ≤ n / d := large
    rw [← scaled_div_eq positive] at half
    have fits : (2 : ℚ) ^ (53 : ℤ) ≤ significand n d := by
      exact_mod_cast Nat.succ_le_of_lt (lt_divNearest (by positivity) (by norm_num) half)
    rw [show (1024 : ℤ) = 53 + 971 from rfl, zpow_add₀ two_ne_zero, unit_eq]
    exact mul_le_mul_of_nonneg_right fits (by positivity)

end

theorem overflow_iff (m k : Nat) :
    2 ^ overflowExponent ≤ m * 2 ^ k ↔ (2 : ℚ) ^ (1024 : ℤ) ≤ m * 2 ^ (k : ℤ) := by
  change _ ↔ (2 : ℚ) ^ (overflowExponent : ℤ) ≤ m * 2 ^ (k : ℤ)
  rw [zpow_natCast, zpow_natCast]
  exact_mod_cast Iff.rfl

/-! ### Results of rounding -/

theorem limit_pos : 0 < limit := lt_trans (by positivity) lt_limit

theorem toRat?_signedZero (negative : Bool) :
    (Extended.signedZero negative).toRat? = some (signed negative 0) := by
  cases negative with
  | false => rfl
  | true => simp [Extended.signedZero, Extended.toRat?, signed]

/-- Below the limit, a ratio is rounded to a number below the limit. -/
theorem roundRatio_of_lt {n d : Nat} (positive : 0 < d) (small : (n : ℚ) / d < limit)
    (negative : Bool) :
    ∃ q, 0 ≤ q ∧ q < limit ∧ (roundRatio negative n d).toRat? = some (signed negative q) := by
  by_cases nonzero : n = 0
  · rw [roundRatio, if_pos nonzero]
    exact ⟨0, le_rfl, limit_pos, toRat?_signedZero negative⟩
  by_cases none : significand n d = 0
  · rw [roundRatio_eq nonzero, if_pos none]
    exact ⟨0, le_rfl, limit_pos, toRat?_signedZero negative⟩
  have fits := significand_mul_lt nonzero positive small
  have within : ¬ 2 ^ overflowExponent ≤ significand n d * 2 ^ (unitExponent n d).toNat := by
    rw [overflow_iff, not_le]
    exact fits.trans limit_lt
  rw [roundRatio_eq nonzero, if_neg none, if_neg within]
  refine ⟨significand n d * 2 ^ unitExponent n d, by positivity, ?_, rfl⟩
  calc (significand n d : ℚ) * 2 ^ unitExponent n d
      ≤ significand n d * 2 ^ ((unitExponent n d).toNat : ℤ) := by
        gcongr
        · exact one_le_two
        · exact Int.self_le_toNat _
    _ < limit := fits

theorem roundRatio_of_le {n d : Nat} (positive : 0 < d) (large : limit ≤ (n : ℚ) / d)
    (negative : Bool) : roundRatio negative n d = .infinite negative := by
  have nonzero : n ≠ 0 := by
    rintro rfl
    rw [Nat.cast_zero, zero_div] at large
    exact absurd limit_pos large.not_gt
  have overflow := (overflow_iff _ _).mpr (le_significand_mul nonzero positive large)
  have some : significand n d ≠ 0 := by
    intro none
    rw [none, Nat.zero_mul] at overflow
    exact absurd overflow (Nat.not_le.mpr (Nat.two_pow_pos _))
  rw [roundRatio_eq nonzero, if_neg some, if_pos overflow]

theorem natAbs_num_div_den (q : ℚ) : (q.num.natAbs : ℚ) / q.den = |q| := by
  rw [Rat.abs_def, Rat.divInt_eq_div, Int.cast_natCast, Int.cast_natCast]

theorem abs_signed (negative : Bool) (q : ℚ) : |signed negative q| = |q| := by
  cases negative with
  | false => rfl
  | true => exact abs_neg q

theorem round_of_lt {q : ℚ} (small : |q| < limit) :
    ∃ r, (round q).toRat? = some r ∧ |r| < limit ∧ (0 ≤ q → 0 ≤ r) := by
  rw [← natAbs_num_div_den] at small
  obtain ⟨r, nonneg, within, result⟩ := roundRatio_of_lt q.pos small (decide (q < 0))
  refine ⟨_, result, ?_, fun positive => ?_⟩
  · rwa [abs_signed, abs_of_nonneg nonneg]
  · rwa [decide_eq_false positive.not_gt]

theorem round_of_le {q : ℚ} (large : limit ≤ |q|) : round q = .infinite (decide (q < 0)) := by
  rw [← natAbs_num_div_den] at large
  exact roundRatio_of_le q.pos large _

/-! ### Quotients and sums -/

theorem divNat_of_lt {x : Extended} {q : ℚ} (value : x.toRat? = some q) (nonneg : 0 ≤ q)
    (within : q < limit) {k : Nat} (positive : 0 < k) :
    ∃ r, (divNat x k).toRat? = some r ∧ 0 ≤ r ∧ r < limit := by
  cases x with
  | nan => cases value
  | infinite => cases value
  | negativeZero => exact ⟨q, value, nonneg, within⟩
  | rational =>
    cases value
    have quotient : 0 ≤ q / k := div_nonneg nonneg k.cast_nonneg
    have small : |q / k| < limit := by
      rw [abs_of_nonneg quotient]
      exact (div_le_self nonneg (by exact_mod_cast positive)).trans_lt within
    obtain ⟨r, result, bound, sign⟩ := round_of_lt small
    exact ⟨r, result, sign quotient, (le_abs_self r).trans_lt bound⟩

section

variable {x y : Extended} {p q : ℚ} (hx : x.toRat? = some p) (hy : y.toRat? = some q)
include hx hy

/-- The sum of finite values is the rounded sum of what they denote, but for two zeros below zero. -/
theorem add_cases : add x y = round (p + q) ∨ p + q = 0 ∧ add x y = .negativeZero := by
  cases x with
  | nan => cases hx
  | infinite => cases hx
  | negativeZero =>
    cases hx
    cases y with
    | nan => cases hy
    | infinite => cases hy
    | negativeZero =>
      cases hy
      exact .inr ⟨add_zero 0, rfl⟩
    | rational =>
      cases hy
      rw [zero_add]
      exact .inl rfl
  | rational =>
    cases hx
    cases y with
    | nan => cases hy
    | infinite => cases hy
    | negativeZero =>
      cases hy
      rw [add_zero]
      exact .inl rfl
    | rational =>
      cases hy
      exact .inl rfl

theorem add_of_lt (small : |p + q| < limit) :
    ∃ r, (add x y).toRat? = some r ∧ |r| < limit := by
  rcases add_cases hx hy with sum | ⟨-, sum⟩
  · rw [sum]
    obtain ⟨r, result, within, -⟩ := round_of_lt small
    exact ⟨r, result, within⟩
  · rw [sum]
    exact ⟨0, rfl, by rw [abs_zero]; exact limit_pos⟩

theorem add_of_le (large : limit ≤ p + q) : add x y = .infinite false := by
  have positive : 0 < p + q := limit_pos.trans_le large
  rcases add_cases hx hy with sum | ⟨zero, -⟩
  · rw [sum, round_of_le (large.trans (le_abs_self _)), decide_eq_false positive.not_gt]
  · exact absurd zero positive.ne'

end

end Binary64

theorem Extended.le_iff {x y : Extended} {p q : ℚ} (hx : x.toRat? = some p)
    (hy : y.toRat? = some q) : x ≤ y ↔ p ≤ q := by
  change Extended.Le x y ↔ p ≤ q
  cases x <;> cases hx <;> cases y <;> cases hy <;> simp [Extended.Le]

/-! ### Decimals -/

namespace Decimal

open Binary64

theorem toRat_eq (d : Decimal) : d.toRat = d.digits * 10 ^ d.exponent := by
  rw [toRat, Rat.mkRat_eq_div, zpow_eq_div 10 d.exponent]
  push_cast [Nat.pow_eq]
  ring

/-- The estimate of the length rests on `log 2 < 0.30103`. -/
theorem lt_ten_pow_width (n : Nat) : n < 10 ^ width n := by
  -- The exponents get names, so that the powers are evaluated only once.
  obtain ⟨p, q, hp, hq, estimate⟩ : ∃ p q, p = 100000 ∧ q = 30103 ∧ 2 ^ p ≤ 10 ^ q :=
    ⟨_, _, rfl, rfl, by decide +kernel⟩
  have powers : (2 ^ (n.log2 + 1)) ^ p ≤ (10 ^ width n) ^ p := by
    calc (2 ^ (n.log2 + 1)) ^ p = (2 ^ p) ^ (n.log2 + 1) := Nat.pow_right_comm ..
      _ ≤ (10 ^ q) ^ (n.log2 + 1) := Nat.pow_le_pow_left estimate _
      _ = 10 ^ (q * (n.log2 + 1)) := (Nat.pow_mul ..).symm
      _ ≤ 10 ^ (width n * p) := by
        refine Nat.pow_le_pow_right (by decide) ?_
        rw [hp, hq, width]
        omega
      _ = (10 ^ width n) ^ p := Nat.pow_mul ..
  calc n < 2 ^ (n.log2 + 1) := Nat.lt_log2_self
    _ ≤ 10 ^ width n := (Nat.pow_le_pow_iff_left (by omega)).mp powers

theorem limit_le_of_exponent {d : Decimal} (some : d.digits ≠ 0) (long : 400 < d.exponent) :
    limit ≤ d.toRat := by
  have one_le : (1 : ℚ) ≤ d.digits := by exact_mod_cast Nat.one_le_iff_ne_zero.mpr some
  calc limit ≤ 2 ^ (1024 : ℤ) := limit_lt.le
    _ ≤ 2 ^ (3 * d.exponent) := zpow_le_zpow_right₀ one_le_two (by omega)
    _ = (2 ^ (3 : ℤ)) ^ d.exponent := zpow_mul ..
    _ ≤ 10 ^ d.exponent := zpow_le_zpow_left₀ (by omega) (by positivity) (by norm_num)
    _ ≤ d.digits * 10 ^ d.exponent := le_mul_of_one_le_left (by positivity) one_le
    _ = d.toRat := (toRat_eq d).symm

theorem toRat_le_of_width (d : Decimal) : d.toRat ≤ 10 ^ (d.exponent + width d.digits) := by
  have digits : (d.digits : ℚ) ≤ 10 ^ (width d.digits : ℤ) := by
    exact_mod_cast (lt_ten_pow_width d.digits).le
  calc d.toRat = d.digits * 10 ^ d.exponent := toRat_eq d
    _ ≤ 10 ^ (width d.digits : ℤ) * 10 ^ d.exponent := by gcongr
    _ = 10 ^ (d.exponent + width d.digits) := by
      rw [← zpow_add₀ (by norm_num), add_comm]

theorem lt_limit_of_width {d : Decimal} (short : d.exponent + width d.digits < -400) :
    d.toRat < limit := by
  calc d.toRat ≤ 10 ^ (d.exponent + width d.digits) := toRat_le_of_width d
    _ ≤ 1 := zpow_le_one_of_nonpos₀ (by norm_num) (by omega)
    _ < 2 ^ (1023 : ℤ) := one_lt_zpow₀ one_lt_two (by norm_num)
    _ < limit := lt_limit

/-- The numerals that are settled by their length are settled as the others are. -/
theorem round_of_lt {d : Decimal} (small : d.toRat < limit) (negative : Bool) :
    ∃ q, 0 ≤ q ∧ q < limit ∧ (round negative d).toRat? = some (signed negative q) := by
  have zero : ∃ q, 0 ≤ q ∧ q < limit ∧
      (Extended.signedZero negative).toRat? = some (signed negative q) :=
    ⟨0, le_rfl, limit_pos, toRat?_signedZero negative⟩
  unfold round
  split_ifs with none long short
  · exact zero
  · exact absurd small (limit_le_of_exponent none long).not_gt
  · exact zero
  · refine roundRatio_of_lt (Nat.pow_pos (by decide)) ?_ negative
    rwa [toRat, Rat.mkRat_eq_div, Int.cast_natCast] at small

theorem round_of_le {d : Decimal} (large : limit ≤ d.toRat) (negative : Bool) :
    round negative d = .infinite negative := by
  unfold round
  split_ifs with none long short
  · rw [toRat_eq, none, Nat.cast_zero, zero_mul] at large
    exact absurd limit_pos large.not_gt
  · rfl
  · exact absurd large (lt_limit_of_width short).not_ge
  · refine roundRatio_of_le (Nat.pow_pos (by decide)) ?_ negative
    rwa [toRat, Rat.mkRat_eq_div, Int.cast_natCast] at large

end Decimal

end BuildIntake.Number
