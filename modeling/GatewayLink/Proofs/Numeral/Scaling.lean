import GatewayLink.Numeral.Written
import GatewayLink.Proofs.Numeral.Rounding

/-!
# Numerals that have a number

The value of a numeral is read from the digits that fit in a word, scaled by a power of ten.  The
conversion, the power and the scaling round once each.  So a numeral has a number unless its
magnitude comes within these errors of the limit.
-/

namespace GatewayLink

namespace Double

/-! ## Scaling by powers of ten -/

theorem isZero_eq_false {number : Double} (positive : 0 < number.size) : number.isZero = false := by
  by_contra zero
  have nothing : number.significand = 0 := by simpa [isZero] using zero
  simp [size, nothing] at positive

theorem size_pos {number : Double} (nonzero : number.isZero = false) : 0 < number.size := by
  have significand_pos : 0 < number.significand :=
    Nat.pos_of_ne_zero (by simpa [isZero] using nonzero)
  unfold size
  positivity

theorem exists_mul? {left right : Double} (below : left.size * right.size < roundingLimit) :
    ∃ number, left.mul? right = some number := by
  have positive : 0 < left.magnitude.2 * right.magnitude.2 :=
    Nat.mul_pos left.magnitude_snd_pos right.magnitude_snd_pos
  have value_eq : ((left.magnitude.1 * right.magnitude.1 : ℕ) : ℚ) /
      (left.magnitude.2 * right.magnitude.2 : ℕ) = left.size * right.size := by
    rw [← magnitude_eq, ← magnitude_eq]
    push_cast
    exact mul_div_mul_comm ..
  obtain ⟨number, found, -⟩ :=
    exists_nearest (left.negative != right.negative) positive value_eq below
  exact ⟨number, found⟩

theorem exists_div? {left right : Double} (nonzero : right.isZero = false)
    (below : left.size / right.size < roundingLimit) :
    ∃ number, left.div? right = some number ∧ number.size ≤ 2 * (left.size / right.size) := by
  have significand_pos : 0 < right.significand :=
    Nat.pos_of_ne_zero (by simpa [isZero] using nonzero)
  have positive : 0 < left.magnitude.2 * right.magnitude.1 :=
    Nat.mul_pos left.magnitude_snd_pos (Nat.mul_pos significand_pos (Nat.pow_pos (by decide)))
  have value_eq : ((left.magnitude.1 * right.magnitude.2 : ℕ) : ℚ) /
      (left.magnitude.2 * right.magnitude.1 : ℕ) = left.size / right.size := by
    rw [← magnitude_eq, ← magnitude_eq]
    push_cast
    exact (div_div_div_eq ..).symm
  obtain ⟨number, found, bound, -⟩ :=
    exists_nearest (left.negative != right.negative) positive value_eq below
  exact ⟨number, by simp [div?, nonzero, found], bound⟩

theorem two_pow_mul_largestUnit : 2 ^ 53 * largestUnit = ((2 : ℚ) ^ 256) ^ 4 := by
  rw [largestUnit, two_pow_mul_zpow, ← pow_mul, ← zpow_natCast]
  rfl

theorem ten_pow_lt_roundingLimit {power : ℕ} (within : power ≤ 308) :
    (10 : ℚ) ^ power < roundingLimit := by
  have positive := largestUnit_pos
  calc (10 : ℚ) ^ power ≤ 10 ^ (77 * 4) := pow_le_pow_right₀ (by norm_num) within
    _ = (10 ^ 77) ^ 4 := pow_mul 10 77 4
    _ ≤ (7 / 8 * 2 ^ 256) ^ 4 := pow_le_pow_left₀ (by norm_num) (by norm_num) 4
    _ = (7 / 8) ^ 4 * (2 ^ 53 * largestUnit) := by rw [mul_pow, two_pow_mul_largestUnit]
    _ < roundingLimit := by
        rw [roundingLimit]
        linarith

theorem roundingLimit_lt_ten_pow {power : ℕ} (beyond : 308 < power) :
    2 * roundingLimit < 10 ^ power := by
  have positive := largestUnit_pos
  calc 2 * roundingLimit < 2 * (2 ^ 53 * largestUnit) := by
        rw [roundingLimit]
        linarith
    _ = 2 * (2 ^ 256) ^ 4 := by rw [two_pow_mul_largestUnit]
    _ ≤ 2 * (6 / 5 * 10 ^ 77) ^ 4 := by gcongr; norm_num
    _ ≤ 10 * (10 ^ 77) ^ 4 := by
        rw [mul_pow, ← mul_assoc]
        gcongr
        norm_num
    _ = 10 ^ (77 * 4 + 1) := by rw [← pow_mul, ← pow_succ']
    _ ≤ 10 ^ power := pow_le_pow_right₀ (by norm_num) beyond

theorem exists_powerOfTen? {power : ℕ} (within : power ≤ 308) :
    ∃ number, powerOfTen? power = some number ∧ 10 ^ power / 2 ≤ number.size ∧
      number.size ≤ 10 ^ power * (1 + 1 / 2 ^ 53) := by
  have value_eq : ((Nat.pow 10 power : ℕ) : ℚ) / (1 : ℕ) = 10 ^ power := by simp
  obtain ⟨number, found, -, bounds⟩ :=
    exists_nearest false Nat.one_pos value_eq (ten_pow_lt_roundingLimit within)
  exact ⟨number, found, bounds (one_le_pow₀ (by norm_num))⟩

end Double

namespace Numeral

open Double (size roundingLimit)

/-- Division by a power of ten does not make a number larger. -/
theorem exists_divideBy? {number : Double} {power : ℕ} (positive : 0 < power)
    (within : power ≤ 308) (below : number.size < roundingLimit) :
    ∃ smaller, divideBy? number power = some smaller ∧ smaller.size ≤ number.size := by
  obtain ⟨divisor, found, low, -⟩ := Double.exists_powerOfTen? within
  have ten_le : (10 : ℚ) ≤ 10 ^ power := le_self_pow₀ (by norm_num) positive.ne'
  have five_le : 5 ≤ divisor.size := by linarith
  have quotient_le : number.size / divisor.size ≤ number.size / 2 :=
    div_le_div_of_nonneg_left number.size_nonneg (by norm_num) (by linarith)
  have nonnegative := number.size_nonneg
  have quotient_lt : number.size / divisor.size < roundingLimit := by linarith
  obtain ⟨smaller, divided, bound⟩ :=
    Double.exists_div? (Double.isZero_eq_false (by linarith)) quotient_lt
  exact ⟨smaller, by simp [divideBy?, found, divided], by linarith⟩

theorem exists_scaleDown {number : Double} (below : number.size < roundingLimit) {power : ℕ}
    (positive : 0 < power) (steps : ℕ) : ∃ scaled, scaleDown number power steps = some scaled := by
  induction steps generalizing number power with
  | zero => exact ⟨_, rfl⟩
  | succ steps induction =>
      unfold scaleDown
      split
      · rename_i at_once
        obtain ⟨smaller, divided, -⟩ := exists_divideBy? positive at_once below
        exact ⟨smaller, divided⟩
      · rename_i beyond
        split
        · exact ⟨_, rfl⟩
        · obtain ⟨smaller, divided, le⟩ :=
            exists_divideBy? (show 0 < largestStep by decide) le_rfl below
          rw [divided, Option.bind_some]
          exact induction (le.trans_lt below) (by rw [largestStep] at *; omega)

/-- A number times a power of ten is a number where the rounding of the power leaves room. -/
theorem exists_scaleUp {number : Double} {power : ℕ}
    (from_half : number.isZero = false → 1 / 2 ≤ number.size)
    (below : number.size * (10 ^ power * (1 + 1 / 2 ^ 53)) < roundingLimit) :
    ∃ scaled, scaleUp number power = some scaled := by
  unfold scaleUp
  split
  · rename_i at_once
    obtain ⟨factor, found, -, high⟩ := Double.exists_powerOfTen? at_once
    rw [found, Option.bind_some]
    exact Double.exists_mul?
      ((mul_le_mul_of_nonneg_left high number.size_nonneg).trans_lt below)
  · rename_i beyond
    split
    · exact ⟨_, rfl⟩
    · rename_i nonzero
      have half := from_half (Bool.eq_false_iff.mpr nonzero)
      have large := Double.roundingLimit_lt_ten_pow (not_le.mp beyond)
      have product : 1 / 2 * (10 : ℚ) ^ power ≤ number.size * (10 ^ power * (1 + 1 / 2 ^ 53)) := by
        gcongr
        exact le_mul_of_one_le_right (by positivity) (by norm_num)
      linarith

/-- What was kept of a numeral has a number where the rounding of the digits and of the power leaves
room. -/
theorem exists_toDouble?_of_kept {numeral : Numeral} {significand : ℕ} {power : ℤ}
    (kept_eq : numeral.kept = (significand, power)) (word : significand < wordBound)
    (below : (significand : ℚ) * 10 ^ power * (1 + 1 / 2 ^ 53) ^ 2 < roundingLimit) :
    ∃ number, numeral.toDouble? = some number := by
  have room : 2 * (significand : ℚ) < roundingLimit := by
    have word_rat : (significand : ℚ) < 18446744073709551616 := by
      rw [wordBound] at word
      exact_mod_cast word
    have large := Double.ten_pow_lt_roundingLimit (show 20 ≤ 308 by norm_num)
    norm_num at large
    linarith
  have value_eq : ((significand : ℕ) : ℚ) / (1 : ℕ) = significand := by simp
  have nonnegative : (0 : ℚ) ≤ significand := Nat.cast_nonneg significand
  obtain ⟨number, found, twice, bounds⟩ :=
    Double.exists_nearest false Nat.one_pos value_eq (by linarith)
  have from_one (nonzero : number.isZero = false) : (1 : ℚ) ≤ significand := by
    have positive := Double.size_pos nonzero
    have some_digit : (0 : ℚ) < significand := by linarith
    exact_mod_cast some_digit
  suffices scales : ∃ scaled, (if power < 0 then scaleDown number power.natAbs 4
      else scaleUp number power.toNat) = some scaled by
    obtain ⟨scaled, scaled_eq⟩ := scales
    exact ⟨scaled.withSign numeral.negative, by simp [toDouble?, kept_eq, found, scaled_eq]⟩
  split
  · rename_i negative
    exact exists_scaleDown (twice.trans_lt room) (Int.natAbs_pos.mpr negative.ne) 4
  · rename_i nonnegative_power
    refine exists_scaleUp (fun nonzero => ?_) ?_
    · linarith [(bounds (from_one nonzero)).1, from_one nonzero]
    · have size_le : number.size ≤ significand * (1 + 1 / 2 ^ 53) := by
        rcases Nat.eq_zero_or_pos significand with rfl | some_digit
        · simpa using twice
        · exact (bounds (by exact_mod_cast some_digit)).2
      have power_eq : (10 : ℚ) ^ power = 10 ^ power.toNat := by
        rw [← zpow_natCast, Int.toNat_of_nonneg (not_lt.mp nonnegative_power)]
      calc number.size * (10 ^ power.toNat * (1 + 1 / 2 ^ 53))
          ≤ (significand : ℚ) * (1 + 1 / 2 ^ 53) * (10 ^ power.toNat * (1 + 1 / 2 ^ 53)) := by
            gcongr
        _ = (significand : ℚ) * 10 ^ power * (1 + 1 / 2 ^ 53) ^ 2 := by
            rw [power_eq]
            ring
        _ < roundingLimit := below

/-! ## Kept digits -/

/-- The digits before and after the point as one whole number. -/
def allDigits (numeral : Numeral) : ℕ :=
  Nat.ofDigitChars 10 (numeral.whole ++ numeral.fraction.getD []) 0

/-- The exponent that is written. -/
def writtenExponent (numeral : Numeral) : ℤ :=
  match numeral.exponent with
  | none => 0
  | some (true, digits) => -(Nat.ofDigitChars 10 digits 0 : ℤ)
  | some (false, digits) => (Nat.ofDigitChars 10 digits 0 : ℤ)

/-- The power of ten of the last digit. -/
def lastPlace (numeral : Numeral) : ℤ :=
  numeral.writtenExponent - (numeral.fraction.getD []).length

theorem mul_ten_pow_le_ofDigitChars (digits : List Char) (number : ℕ) :
    number * 10 ^ digits.length ≤ Nat.ofDigitChars 10 digits number := by
  rw [Nat.ofDigitChars_eq_ofDigitChars_zero, mul_comm]
  exact Nat.le_add_right ..

/-- The kept digits are the leading ones; the others are left out. -/
theorem keepDigits_spec {significand : ℕ} (word : significand < wordBound) (digits : List Char) :
    (keepDigits significand digits).1 < wordBound ∧
      (keepDigits significand digits).2.length ≤ digits.length ∧
      (keepDigits significand digits).1 * 10 ^ (keepDigits significand digits).2.length ≤
        Nat.ofDigitChars 10 digits significand := by
  induction digits generalizing significand with
  | nil => simp [keepDigits, word]
  | cons digit rest induction =>
      simp only [keepDigits]
      split
      · rename_i longer
        obtain ⟨kept_word, shorter, le⟩ := induction longer
        exact ⟨kept_word, shorter.trans (Nat.le_succ _), le⟩
      · exact ⟨word, le_rfl, mul_ten_pow_le_ofDigitChars _ _⟩

theorem keepDigits_of_lt {significand : ℕ} {digits : List Char}
    (word : Nat.ofDigitChars 10 digits significand < wordBound) :
    keepDigits significand digits = (Nat.ofDigitChars 10 digits significand, []) := by
  induction digits generalizing significand with
  | nil => rfl
  | cons digit rest induction =>
      have first : Nat.ofDigitChars 10 [digit] significand < wordBound :=
        ((Nat.le_mul_of_pos_right _ (Nat.pow_pos (by decide))).trans
          (mul_ten_pow_le_ofDigitChars rest _)).trans_lt word
      simp only [keepDigits, if_pos first]
      exact induction word

/-- A numeral has a number if its whole digits fit in a word and its magnitude, with room for two
roundings, lies below the limit. -/
theorem exists_toDouble?_of_lt {numeral : Numeral}
    (short : Nat.ofDigitChars 10 numeral.whole 0 < wordBound)
    (below : (numeral.allDigits : ℚ) * 10 ^ numeral.lastPlace * (1 + 1 / 2 ^ 53) ^ 2 <
      roundingLimit) :
    ∃ number, numeral.toDouble? = some number := by
  obtain ⟨word, shorter, le⟩ := keepDigits_spec short (numeral.fraction.getD [])
  rw [← Nat.ofDigitChars_append] at le
  generalize kept_eq : keepDigits (Nat.ofDigitChars 10 numeral.whole 0) (numeral.fraction.getD []) =
    keeps at word shorter le
  obtain ⟨significand, unread⟩ := keeps
  dsimp only at word shorter le
  have kept : numeral.kept = (significand, numeral.lastPlace + unread.length) := by
    have power_eq : ((0 : ℕ) : ℤ) - ((numeral.fraction.getD []).length - unread.length : ℕ) +
        numeral.writtenExponent = numeral.lastPlace + unread.length := by
      rw [lastPlace]
      omega
    simp only [Numeral.kept, keepDigits_of_lt short, kept_eq]
    exact congrArg (significand, ·) power_eq
  refine exists_toDouble?_of_kept kept word (lt_of_le_of_lt ?_ below)
  have le_rat : (significand : ℚ) * 10 ^ unread.length ≤ numeral.allDigits := by
    exact_mod_cast le
  calc (significand : ℚ) * 10 ^ (numeral.lastPlace + unread.length : ℤ) * (1 + 1 / 2 ^ 53) ^ 2
      = (significand : ℚ) * 10 ^ unread.length * 10 ^ numeral.lastPlace * (1 + 1 / 2 ^ 53) ^ 2 := by
        rw [zpow_add₀ (by norm_num), zpow_natCast]
        ring
    _ ≤ (numeral.allDigits : ℚ) * 10 ^ numeral.lastPlace * (1 + 1 / 2 ^ 53) ^ 2 := by gcongr

end Numeral

end GatewayLink
