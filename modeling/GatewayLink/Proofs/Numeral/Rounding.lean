import Mathlib.Algebra.Order.Field.Power
import Mathlib.Data.Rat.Cast.Order
import Mathlib.Tactic.FieldSimp
import Mathlib.Tactic.Linarith
import Mathlib.Tactic.Positivity
import Mathlib.Tactic.Ring
import GatewayLink.Numeral.Double

/-!
# Rounding to binary64

A positive rational number has a nearest binary64 number as long as it lies below the middle between
the largest one and the next power of two.  The nearest number is at most twice as large, and for
numbers from one on it differs by half of the last of 53 bits at most.
-/

namespace GatewayLink

namespace Double

/-- The magnitude of a number. -/
def size (number : Double) : ℚ :=
  number.significand * 2 ^ number.exponent

theorem size_nonneg (number : Double) : 0 ≤ number.size := by
  unfold size
  positivity

@[simp]
theorem size_zero (negative : Bool) : (zero negative).size = 0 := by
  simp [size, zero]

/-- The last place of the largest numbers. -/
def largestUnit : ℚ :=
  2 ^ (971 : ℤ)

/-- The numbers from here on round to no binary64 number. -/
def roundingLimit : ℚ :=
  (2 ^ 53 - 1 / 2) * largestUnit

/-! ## Quotients of whole numbers -/

theorem scaled_eq (whole : ℕ) (exponent : ℤ) :
    ((whole * Nat.pow 2 exponent.toNat : ℕ) : ℚ) / (Nat.pow 2 (-exponent).toNat : ℕ) =
      whole * 2 ^ exponent := by
  obtain ⟨power, rfl | rfl⟩ := exponent.eq_nat_or_neg
  · simp
  · simp [div_eq_mul_inv]

theorem magnitude_eq (number : Double) :
    (number.magnitude.1 : ℚ) / number.magnitude.2 = number.size :=
  scaled_eq number.significand number.exponent

theorem magnitude_snd_pos (number : Double) : 0 < number.magnitude.2 :=
  Nat.pow_pos (by decide)

theorem shifted_snd_pos (numerator : ℕ) {denominator : ℕ} (positive : 0 < denominator)
    (exponent : ℤ) : 0 < (shifted numerator denominator exponent).2 :=
  Nat.mul_pos positive (Nat.pow_pos (by decide))

theorem shifted_eq (numerator denominator : ℕ) (exponent : ℤ) :
    ((shifted numerator denominator exponent).1 : ℚ) / (shifted numerator denominator exponent).2 =
      numerator / denominator / 2 ^ exponent := by
  obtain ⟨power, rfl | rfl⟩ := exponent.eq_nat_or_neg
  · simp [shifted, div_div]
  · simp [shifted, mul_div_right_comm]

/-- A rounded quotient is half a unit away at most. -/
theorem roundedQuotient_bounds (numerator : ℕ) {denominator : ℕ} (positive : 0 < denominator) :
    (numerator : ℚ) / denominator - 1 / 2 ≤ roundedQuotient numerator denominator ∧
      (roundedQuotient numerator denominator : ℚ) ≤ numerator / denominator + 1 / 2 := by
  have split := Nat.div_add_mod numerator denominator
  have small := Nat.mod_lt numerator positive
  have bounds : 2 * numerator ≤ (2 * roundedQuotient numerator denominator + 1) * denominator ∧
      2 * roundedQuotient numerator denominator * denominator ≤ 2 * numerator + denominator := by
    unfold roundedQuotient
    generalize numerator / denominator = quotient at split
    generalize numerator % denominator = remainder at split small
    subst split
    dsimp only
    split
    · constructor <;> linarith
    · split
      · constructor <;> linarith
      · have tie : 2 * remainder = denominator := by omega
        rcases Nat.mod_two_eq_zero_or_one quotient with even | odd
        · rw [even]
          constructor <;> linarith
        · rw [odd]
          constructor <;> linarith
  have positive_rat : (0 : ℚ) < denominator := by exact_mod_cast positive
  have lower : 2 * (numerator : ℚ) ≤
      (2 * roundedQuotient numerator denominator + 1) * denominator := by
    exact_mod_cast bounds.1
  have upper : 2 * (roundedQuotient numerator denominator : ℚ) * denominator ≤
      2 * numerator + denominator := by
    exact_mod_cast bounds.2
  constructor
  · rw [sub_le_iff_le_add, div_le_iff₀ positive_rat]
    linarith
  · rw [← sub_le_iff_le_add, le_div_iff₀ positive_rat]
    linarith

/-! ## Exponents -/

theorem two_zpow_pos (exponent : ℤ) : (0 : ℚ) < 2 ^ exponent :=
  zpow_pos (by norm_num) exponent

theorem two_zpow_le {left right : ℤ} (le : left ≤ right) : (2 : ℚ) ^ left ≤ 2 ^ right :=
  zpow_le_zpow_right₀ (by norm_num) le

theorem two_pow_mul_zpow (power : ℕ) (exponent : ℤ) :
    (2 : ℚ) ^ power * 2 ^ exponent = 2 ^ (power + exponent) := by
  rw [zpow_add₀ (by norm_num), zpow_natCast]

/-- The logarithms of numerator and denominator give the quotient up to a factor of two. -/
theorem quotient_bounds {numerator denominator : ℕ} (above : 0 < numerator)
    (below : 0 < denominator) {upper : ℤ}
    (upper_eq : (numerator.log2 : ℤ) - denominator.log2 - 52 = upper) :
    (2 : ℚ) ^ 51 * 2 ^ upper ≤ numerator / denominator ∧
      (numerator : ℚ) / denominator < 2 ^ 53 * 2 ^ upper := by
  have numerator_low : (2 : ℚ) ^ numerator.log2 ≤ numerator := by
    exact_mod_cast Nat.log2_self_le above.ne'
  have numerator_high : (numerator : ℚ) < 2 ^ (numerator.log2 + 1) := by
    exact_mod_cast Nat.lt_log2_self
  have denominator_low : (2 : ℚ) ^ denominator.log2 ≤ denominator := by
    exact_mod_cast Nat.log2_self_le below.ne'
  have denominator_high : (denominator : ℚ) ≤ 2 ^ (denominator.log2 + 1) := by
    exact_mod_cast Nat.lt_log2_self.le
  have positive : (0 : ℚ) < denominator := by exact_mod_cast below
  have unit_pos := two_zpow_pos upper
  rw [le_div_iff₀ positive, div_lt_iff₀ positive]
  constructor
  · calc (2 : ℚ) ^ 51 * 2 ^ upper * denominator
        ≤ 2 ^ 51 * 2 ^ upper * 2 ^ (denominator.log2 + 1) := by gcongr
      _ = 2 ^ numerator.log2 := by
          rw [two_pow_mul_zpow, mul_comm, two_pow_mul_zpow, ← zpow_natCast]
          congr 1
          omega
      _ ≤ numerator := numerator_low
  · calc (numerator : ℚ) < 2 ^ (numerator.log2 + 1) := numerator_high
      _ = 2 ^ 53 * 2 ^ upper * 2 ^ denominator.log2 := by
          rw [two_pow_mul_zpow, mul_comm, two_pow_mul_zpow, ← zpow_natCast]
          congr 1
          omega
      _ ≤ 2 ^ 53 * 2 ^ upper * denominator := by gcongr

/-- Whether a quotient in a unit has 53 bits before the point. -/
theorem leastFull_le_shifted_iff (numerator : ℕ) {denominator : ℕ} (below : 0 < denominator)
    (unit : ℤ) :
    leastFull ≤ (shifted numerator denominator unit).1 / (shifted numerator denominator unit).2 ↔
      (2 : ℚ) ^ 52 * 2 ^ unit ≤ numerator / denominator := by
  have positive := shifted_snd_pos numerator below unit
  have positive_rat : (0 : ℚ) < (shifted numerator denominator unit).2 := by
    exact_mod_cast positive
  have full : (leastFull : ℚ) = 2 ^ 52 := by norm_num [leastFull]
  rw [Nat.le_div_iff_mul_le positive, ← le_div_iff₀ (two_zpow_pos unit), ← shifted_eq, ← full,
    le_div_iff₀ positive_rat]
  exact_mod_cast Iff.rfl

/-- At the chosen exponent the quotient has at most 53 bits before the point, and all of them above
the least exponent. -/
theorem exponentFor_spec {numerator denominator : ℕ} (above : 0 < numerator)
    (below : 0 < denominator) :
    -1074 ≤ exponentFor numerator denominator ∧
      (numerator : ℚ) / denominator < 2 ^ 53 * 2 ^ exponentFor numerator denominator ∧
      (exponentFor numerator denominator = -1074 ∨
        2 ^ 52 * 2 ^ exponentFor numerator denominator ≤ (numerator : ℚ) / denominator) := by
  unfold exponentFor
  dsimp only
  generalize upper_eq : (numerator.log2 : ℤ) - denominator.log2 - 52 = upper
  obtain ⟨low, high⟩ := quotient_bounds above below upper_eq
  have tested := leastFull_le_shifted_iff numerator below upper
  obtain ⟨exact, exact_eq, exact_low, exact_high⟩ : ∃ exact : ℤ,
      (if leastFull ≤ (shifted numerator denominator upper).1 /
        (shifted numerator denominator upper).2 then upper else upper - 1) = exact ∧
      (2 : ℚ) ^ 52 * 2 ^ exact ≤ numerator / denominator ∧
      (numerator : ℚ) / denominator < 2 ^ 53 * 2 ^ exact := by
    by_cases full : (2 : ℚ) ^ 52 * 2 ^ upper ≤ numerator / denominator
    · exact ⟨upper, if_pos (tested.mpr full), full, high⟩
    · have halved : (2 : ℚ) ^ upper = 2 * 2 ^ (upper - 1) := by
        rw [← zpow_one_add₀ (by norm_num)]
        congr 1
        omega
      refine ⟨upper - 1, if_neg (tested.not.mpr full), ?_, ?_⟩
      · linarith
      · linarith
  rw [exact_eq]
  refine ⟨le_max_right _ _, ?_, ?_⟩
  · calc (numerator : ℚ) / denominator < 2 ^ 53 * 2 ^ exact := exact_high
      _ ≤ 2 ^ 53 * 2 ^ max exact (-1074) := by
          gcongr
          · norm_num
          · exact le_max_left _ _
  · rcases le_total exact (-1074) with least | normal
    · exact .inl (max_eq_right least)
    · exact .inr (by rwa [max_eq_left normal])

/-! ## The nearest number -/

theorem largestUnit_pos : 0 < largestUnit :=
  two_zpow_pos 971

theorem exponent_le {exponent : ℤ} (below : (2 : ℚ) ^ 52 * 2 ^ exponent < 2 ^ 53 * largestUnit) :
    exponent ≤ 971 := by
  rw [largestUnit, two_pow_mul_zpow, two_pow_mul_zpow, zpow_lt_zpow_iff_right₀ (by norm_num)]
    at below
  omega

theorem exponent_le_of_significand {significand : ℕ} {exponent : ℤ}
    (full : leastFull ≤ significand ∨ exponent = -1074)
    (below : (significand : ℚ) * 2 ^ exponent < 2 ^ 53 * largestUnit) : exponent ≤ 971 := by
  rcases full with full | rfl
  · have full_rat : (2 : ℚ) ^ 52 ≤ significand := by
      rw [leastFull] at full
      exact_mod_cast full
    exact exponent_le
      (lt_of_le_of_lt (mul_le_mul_of_nonneg_right full_rat (two_zpow_pos exponent).le) below)
  · decide

/-- A significand of at most 53 bits makes a number; a carry moves the point. -/
theorem exists_carried (negative : Bool) {rounded : ℕ} {exponent : ℤ}
    (in_bits : rounded ≤ significandBound) (least : -1074 ≤ exponent)
    (full : leastFull ≤ rounded ∨ exponent = -1074)
    (below : (rounded : ℚ) * 2 ^ exponent < 2 ^ 53 * largestUnit) :
    ∃ fits, (⟨negative, if rounded = significandBound then leastFull else rounded,
        if rounded = significandBound then exponent + 1 else exponent, fits⟩ : Double).size =
      rounded * 2 ^ exponent := by
  by_cases carried : rounded = significandBound
  · have same : (leastFull : ℚ) * 2 ^ (exponent + 1) = rounded * 2 ^ exponent := by
      have doubled : (significandBound : ℚ) = leastFull * 2 := by
        norm_num [leastFull, significandBound]
      rw [zpow_add_one₀ (by norm_num), carried, doubled]
      ring
    have fits : Fits leastFull (exponent + 1) :=
      ⟨by decide, by omega, exponent_le_of_significand (.inl le_rfl) (same ▸ below), .inl le_rfl⟩
    simp only [size, if_pos carried]
    exact ⟨fits, same⟩
  · have fits : Fits rounded exponent :=
      ⟨lt_of_le_of_ne in_bits carried, least, exponent_le_of_significand full below, full⟩
    simp only [size, if_neg carried]
    exact ⟨fits, trivial⟩

/-- A quotient that is rounded to the unit of its exponent makes a number. -/
theorem exists_rounded (negative : Bool) {value : ℚ} (below : value < roundingLimit)
    {exponent : ℤ} (least : -1074 ≤ exponent)
    (high : value < 2 ^ 53 * 2 ^ exponent)
    (full : exponent = -1074 ∨ 2 ^ 52 * 2 ^ exponent ≤ value) {rounded : ℕ}
    (low : value / 2 ^ exponent - 1 / 2 ≤ rounded) (up : rounded ≤ value / 2 ^ exponent + 1 / 2) :
    ∃ fits, (⟨negative, if rounded = significandBound then leastFull else rounded,
        if rounded = significandBound then exponent + 1 else exponent, fits⟩ : Double).size =
      rounded * 2 ^ exponent := by
  have unit_pos := two_zpow_pos exponent
  have value_high : value / 2 ^ exponent < 2 ^ 53 := (div_lt_iff₀ unit_pos).mpr high
  have in_bits : rounded ≤ significandBound := by
    have bound : (rounded : ℚ) < (2 ^ 53 + 1 : ℕ) := by
      push_cast
      linarith
    have bound : rounded < 2 ^ 53 + 1 := by exact_mod_cast bound
    rw [significandBound]
    omega
  have full_bits : leastFull ≤ rounded ∨ exponent = -1074 := by
    refine full.symm.imp_left fun full => ?_
    have value_low : 2 ^ 52 ≤ value / 2 ^ exponent := (le_div_iff₀ unit_pos).mpr full
    have bound : ((2 ^ 52 - 1 : ℕ) : ℚ) < rounded := by
      push_cast
      linarith
    have bound : 2 ^ 52 - 1 < rounded := by exact_mod_cast bound
    rw [leastFull]
    omega
  have limit_eq : roundingLimit = 2 ^ 53 * largestUnit - largestUnit / 2 := by
    rw [roundingLimit]
    ring
  have unit_le : (2 : ℚ) ^ exponent ≤ largestUnit := by
    refine two_zpow_le ?_
    rcases full with rfl | full
    · decide
    · exact exponent_le (by linarith [largestUnit_pos])
  refine exists_carried negative in_bits least full_bits ?_
  have size_le : (rounded : ℚ) * 2 ^ exponent ≤ value + 2 ^ exponent / 2 := by
    have product := mul_le_mul_of_nonneg_right up unit_pos.le
    rwa [add_mul, div_mul_cancel₀ _ unit_pos.ne', one_div_mul_eq_div] at product
  linarith

/-- Below the limit there is a nearest number. -/
theorem exists_nearest (negative : Bool) {numerator denominator : ℕ} (positive : 0 < denominator)
    {value : ℚ} (value_eq : (numerator : ℚ) / denominator = value) (below : value < roundingLimit) :
    ∃ number, nearest negative numerator denominator = some number ∧ number.size ≤ 2 * value ∧
      (1 ≤ value → value / 2 ≤ number.size ∧ number.size ≤ value * (1 + 1 / 2 ^ 53)) := by
  by_cases nothing : numerator = 0
  · obtain rfl : value = 0 := by simpa [nothing] using value_eq.symm
    exact ⟨zero negative, by simp [nearest, nothing], by simp, fun least => by norm_num at least⟩
  · have nonnegative : 0 ≤ value := by
      rw [← value_eq]
      positivity
    obtain ⟨least, high, full⟩ := exponentFor_spec (Nat.pos_of_ne_zero nothing) positive
    rw [value_eq] at high full
    unfold nearest
    rw [if_neg nothing]
    generalize exponentFor numerator denominator = exponent at least high full
    have scaled_pos := shifted_snd_pos numerator positive exponent
    have scaled_eq := shifted_eq numerator denominator exponent
    rw [value_eq] at scaled_eq
    dsimp only
    generalize shifted numerator denominator exponent = scaled at scaled_pos scaled_eq
    obtain ⟨low, up⟩ := roundedQuotient_bounds scaled.1 scaled_pos
    rw [scaled_eq] at low up
    generalize roundedQuotient scaled.1 scaled.2 = rounded at low up
    obtain ⟨fits, size_eq⟩ := exists_rounded negative below least high full low up
    have unit_pos := two_zpow_pos exponent
    -- The rounding error, in the unit of the result.
    have product_low := mul_le_mul_of_nonneg_right low unit_pos.le
    have product_up := mul_le_mul_of_nonneg_right up unit_pos.le
    rw [sub_mul, div_mul_cancel₀ _ unit_pos.ne'] at product_low
    rw [add_mul, div_mul_cancel₀ _ unit_pos.ne'] at product_up
    refine ⟨_, dif_pos fits, ?_, fun from_one => ?_⟩ <;> rw [size_eq]
    · rcases Nat.eq_zero_or_pos rounded with rfl | some
      · simpa using nonnegative
      · have one_le : 1 * (2 : ℚ) ^ exponent ≤ rounded * 2 ^ exponent :=
          mul_le_mul_of_nonneg_right (by exact_mod_cast some) unit_pos.le
        linarith
    · have unit_le : 2 ^ 52 * (2 : ℚ) ^ exponent ≤ value := by
        refine full.resolve_left ?_
        rintro rfl
        have tiny : (2 : ℚ) ^ 53 * 2 ^ (-1074 : ℤ) ≤ 1 := by
          rw [two_pow_mul_zpow]
          exact zpow_le_one_of_nonpos₀ (by norm_num) (by norm_num)
        linarith
      constructor <;> linarith

end Double

end GatewayLink
