import GatewayLink.Numeral.Shortest
import GatewayLink.Proofs.Numeral.Grammar
import GatewayLink.Proofs.Numeral.Scaling

/-!
# The text of a number

The shortest digits of a number lie in the interval that rounds to it, so they are at most half of
a last place larger.  Plain and scientific notation spell numerals of these digits.  So the text of
a number spells a numeral, and that numeral has a number: only the two largest magnitudes come so
close to the limit that the bound does not decide, and they are read one by one.
-/

namespace GatewayLink

namespace Double

/-! ## Shortest digits -/

theorem inTens_eq (number : Double) (units : ℕ) (power : ℤ) :
    ((number.inTens units power).1 : ℚ) / (number.inTens units power).2 =
      units * 2 ^ (number.exponent - 2) / 10 ^ power := by
  unfold inTens
  obtain ⟨tens, rfl | rfl⟩ := power.eq_nat_or_neg <;>
    obtain ⟨twos, twos_eq | twos_eq⟩ := (number.exponent - 2).eq_nat_or_neg <;>
      simp [twos_eq, div_eq_mul_inv, mul_comm, mul_left_comm, mul_assoc]

theorem inTens_snd_pos (number : Double) (units : ℕ) (power : ℤ) :
    0 < (number.inTens units power).2 :=
  Nat.mul_pos (Nat.pow_pos (by decide)) (Nat.pow_pos (by decide))

/-- What rounds to a number is half of its last place larger at most. -/
theorem le_of_accepts {number : Double} {candidate : ℕ} {power : ℤ}
    (accepted : number.accepts candidate power = true) :
    (candidate : ℚ) * 10 ^ power ≤ (number.significand + 1 / 2) * 2 ^ number.exponent := by
  have below : candidate * (number.inTens number.rounding.high power).2 ≤
      (number.inTens number.rounding.high power).1 := by
    unfold accepts at accepted
    dsimp only at accepted
    split at accepted <;>
      · simp only [Bool.and_eq_true, decide_eq_true_eq] at accepted
        omega
  have positive : (0 : ℚ) < (number.inTens number.rounding.high power).2 := by
    exact_mod_cast number.inTens_snd_pos _ _
  have below_rat : (candidate : ℚ) ≤ (number.inTens number.rounding.high power).1 /
      (number.inTens number.rounding.high power).2 := by
    rw [le_div_iff₀ positive]
    exact_mod_cast below
  rw [inTens_eq, le_div_iff₀ (by positivity)] at below_rat
  refine below_rat.trans_eq ?_
  rw [zpow_sub₀ (by norm_num)]
  simp only [rounding]
  push_cast
  ring

/-- A neighbour on a decimal grid is taken only if it rounds to the number and is not zero. -/
theorem onGrid?_spec {number : Double} {power : ℤ} {decimal : Decimal}
    (found : number.onGrid? power = some decimal) :
    number.accepts decimal.digits decimal.exponent = true ∧ 0 < decimal.digits := by
  unfold onGrid? at found
  dsimp only at found
  split at found <;> simp only [Option.some.injEq, reduceCtorEq] at found <;> subst found <;>
    rename_i below above
  · obtain ⟨accepted, nonzero⟩ := Bool.and_eq_true_iff.mp below
    dsimp only
    split
    · exact ⟨accepted, Nat.pos_of_ne_zero (bne_iff_ne.mp nonzero)⟩
    · exact ⟨above, Nat.succ_pos _⟩
  · obtain ⟨accepted, nonzero⟩ := Bool.and_eq_true_iff.mp below
    exact ⟨accepted, Nat.pos_of_ne_zero (bne_iff_ne.mp nonzero)⟩
  · exact ⟨above, Nat.succ_pos _⟩

theorem firstOnGrid?_spec {number : Double} {power : ℤ} {grids : ℕ} {decimal : Decimal}
    (found : number.firstOnGrid? power grids = some decimal) :
    number.accepts decimal.digits decimal.exponent = true ∧ 0 < decimal.digits := by
  induction grids generalizing power with
  | zero => simp [firstOnGrid?] at found
  | succ grids induction =>
      unfold firstOnGrid? at found
      split at found
      · rename_i here
        simp only [Option.some.injEq] at found
        subst found
        exact onGrid?_spec here
      · exact induction found

/-- The shortest digits are half of a last place larger at most; without any they are not scaled. -/
theorem shortest_spec (number : Double) :
    (number.shortest.digits : ℚ) * 10 ^ number.shortest.exponent ≤
        (number.significand + 1 / 2) * 2 ^ number.exponent ∧
      (0 < number.shortest.digits ∨ number.shortest = ⟨0, 0⟩) := by
  have nothing : ((0 : ℕ) : ℚ) * 10 ^ (0 : ℤ) ≤
      (number.significand + 1 / 2) * 2 ^ number.exponent := by
    simp only [Nat.cast_zero, zero_mul]
    positivity
  unfold shortest
  split
  · exact ⟨nothing, .inr rfl⟩
  · cases found : number.firstOnGrid? number.leadingPower 18 with
    | none => exact ⟨nothing, .inr rfl⟩
    | some decimal =>
        obtain ⟨accepted, positive⟩ := firstOnGrid?_spec found
        exact ⟨le_of_accepts accepted, .inl positive⟩

end Double

namespace Numeral

/-! ## Notations -/

theorem isDigit_replicate_zero (count : ℕ) :
    ∀ character ∈ List.replicate count '0', character.isDigit = true := by
  intro character member
  rw [List.eq_of_mem_replicate member]
  rfl

/-- Digits stand for less than the power of ten of their number. -/
theorem ofDigitChars_lt {digits : List Char}
    (all_digits : ∀ character ∈ digits, character.isDigit = true) :
    Nat.ofDigitChars 10 digits 0 < 10 ^ digits.length := by
  induction digits with
  | nil => decide
  | cons first rest induction =>
      have rest_lt := induction fun character member => all_digits character (by simp [member])
      have first_digit : first.toNat - '0'.toNat ≤ 9 := by
        have digit := all_digits first (by simp)
        simp only [Char.isDigit, Bool.and_eq_true, decide_eq_true_eq,
          UInt32.le_iff_toNat_le] at digit
        have nine : ('9'.val).toNat = 57 := rfl
        have zero : '0'.toNat = 48 := rfl
        have value : first.toNat = first.val.toNat := rfl
        omega
      rw [Nat.ofDigitChars_cons, Nat.ofDigitChars_eq_ofDigitChars_zero, List.length_cons, pow_succ]
      nlinarith

/-- A numeral that has the given digits, with the point behind so many of them. -/
structure Notes (digits : List Char) (point : ℤ) (numeral : Numeral) : Prop where
  short : Nat.ofDigitChars 10 numeral.whole 0 < wordBound
  value_eq : (numeral.allDigits : ℚ) * 10 ^ numeral.lastPlace =
    Nat.ofDigitChars 10 digits 0 * 10 ^ (point - digits.length)

theorem exists_spelled_notes (negative : Bool) (digits : List Char) (point : ℤ) (zeros : ℕ)
    {whole fractionText exponentText : List Char} {fraction : Option (List Char)}
    {exponent : Option (Bool × List Char)} (whole_digits : WholeDigits whole)
    (length_le : whole.length ≤ 16) (fractioned : FractionText fraction fractionText)
    (exponented : ExponentText exponent exponentText)
    (digits_eq : allDigits ⟨negative, whole, fraction, exponent⟩ =
      10 ^ zeros * Nat.ofDigitChars 10 digits 0)
    (place_eq : lastPlace ⟨negative, whole, fraction, exponent⟩ = point - digits.length - zeros) :
    ∃ numeral : Numeral,
      numeral.Spelled (signText negative ++ whole ++ fractionText ++ exponentText) ∧
        Notes digits point numeral := by
  refine ⟨_, .parts whole_digits fractioned exponented, ?_, ?_⟩
  · exact (ofDigitChars_lt whole_digits.1.2).trans_le
      ((Nat.pow_le_pow_right (by decide) length_le).trans (by decide))
  · rw [place_eq, digits_eq, zpow_sub₀ (by norm_num), zpow_natCast]
    push_cast
    field_simp

theorem wholeDigits_append_zeros {digits : List Char} (count : ℕ)
    (all_digits : ∀ character ∈ digits, character.isDigit = true)
    (leading : digits.head? ≠ some '0') (alone : digits = [] → count = 1) :
    WholeDigits (digits ++ List.replicate count '0') := by
  cases digits with
  | nil =>
      rw [alone rfl]
      simp [WholeDigits, Digits]
  | cons first rest =>
      refine ⟨⟨by simp, fun character member => ?_⟩, fun zero => absurd zero leading⟩
      exact (List.mem_append.mp member).elim (all_digits character)
        (isDigit_replicate_zero _ character)

section Plain

variable {digits : List Char} {point : ℤ} (negative : Bool)
  (all_digits : ∀ character ∈ digits, character.isDigit = true)

include all_digits

/-- Plain notation with the point before all digits. -/
theorem exists_pointBefore (some_digit : digits ≠ []) (before : point ≤ 0) :
    ∃ numeral : Numeral, numeral.Spelled (signText negative ++ Double.plainNotation digits point) ∧
      Notes digits point numeral := by
  have whole : WholeDigits ['0'] := by simp [WholeDigits, Digits]
  have fraction : Digits (List.replicate (-point).toNat '0' ++ digits) :=
    ⟨by simp [some_digit], by simpa [or_imp, forall_and, isDigit_replicate_zero] using all_digits⟩
  have spelled := exists_spelled_notes negative digits point 0 whole (by decide)
    (.present fraction) .absent
    (by simp [allDigits, Nat.ofDigitChars_append, Nat.ofDigitChars_cons,
      Nat.ofDigitChars_replicate_zero])
    (by simp [lastPlace, writtenExponent]; omega)
  simpa [Double.plainNotation, before] using spelled

/-- Plain notation with the point between two digits. -/
theorem exists_pointBetween (leading : digits.head? ≠ some '0') (positive : ¬point ≤ 0)
    (between : point.toNat < digits.length) (within : point ≤ 16) :
    ∃ numeral : Numeral, numeral.Spelled (signText negative ++ Double.plainNotation digits point) ∧
      Notes digits point numeral := by
  have taken : (digits.take point.toNat).length = point.toNat := by
    simp only [List.length_take]
    omega
  have some_left : (digits.drop point.toNat).isEmpty = false := by simpa using between
  have whole : WholeDigits (digits.take point.toNat) := by
    refine ⟨⟨fun empty => ?_, fun character member =>
      all_digits character (List.mem_of_mem_take member)⟩, fun zero => absurd ?_ leading⟩
    · rw [empty, List.length_nil] at taken
      omega
    · rwa [List.head?_take, if_neg (by omega)] at zero
  have fraction : Digits (digits.drop point.toNat) :=
    ⟨by simpa using between, fun character member =>
      all_digits character (List.mem_of_mem_drop member)⟩
  have spelled := exists_spelled_notes negative digits point 0 whole
    (by omega) (.present fraction) .absent (by simp [allDigits])
    (by simp [lastPlace, writtenExponent]; omega)
  simpa [Double.plainNotation, positive, taken, some_left] using spelled

/-- Plain notation with the point behind all digits, and zeros up to it. -/
theorem exists_pointBehind (leading : digits.head? ≠ some '0') (nothing : digits = [] → point = 1)
    (positive : ¬point ≤ 0) (behind : digits.length ≤ point.toNat) (within : point ≤ 16) :
    ∃ numeral : Numeral, numeral.Spelled (signText negative ++ Double.plainNotation digits point) ∧
      Notes digits point numeral := by
  have taken : digits.take point.toNat = digits := List.take_of_length_le behind
  have none_left : digits.drop point.toNat = [] := List.drop_of_length_le behind
  have whole := wholeDigits_append_zeros (point.toNat - digits.length) all_digits leading
    fun empty => by simp [empty, nothing]
  have zero : Digits ['0'] := by simp [Digits]
  have spelled := exists_spelled_notes negative digits point (point.toNat - digits.length + 1)
    whole (by simp only [List.length_append, List.length_replicate]; omega) (.present zero) .absent
    (by simp [allDigits, Nat.ofDigitChars_append, Nat.ofDigitChars_cons,
      Nat.ofDigitChars_replicate_zero, pow_succ', mul_assoc])
    (by simp [lastPlace, writtenExponent]; omega)
  simpa [Double.plainNotation, positive, taken, none_left] using spelled

theorem exists_plainNotation (leading : digits.head? ≠ some '0')
    (nothing : digits = [] → point = 1) (within : point ≤ 16) :
    ∃ numeral : Numeral, numeral.Spelled (signText negative ++ Double.plainNotation digits point) ∧
      Notes digits point numeral := by
  by_cases before : point ≤ 0
  · refine exists_pointBefore negative all_digits (fun empty => ?_) before
    rw [nothing empty] at before
    exact absurd before (by decide)
  · obtain between | behind := lt_or_ge point.toNat digits.length
    · exact exists_pointBetween negative all_digits leading before between within
    · exact exists_pointBehind negative all_digits leading nothing before behind within

end Plain

theorem exponentText_toDigits (exponent : ℤ) :
    ExponentText (some (decide (exponent < 0), Nat.toDigits 10 exponent.natAbs))
      ('e' :: (if exponent < 0 then '-' else '+') :: Nat.toDigits 10 exponent.natAbs) := by
  have some_digits := (wholeDigits_toDigits exponent.natAbs).1
  by_cases small : exponent < 0
  · simpa [small] using ExponentText.present (.inl rfl) .minus some_digits
  · simpa [small] using ExponentText.present (.inl rfl) .plus some_digits

theorem writtenExponent_toDigits (negative : Bool) (whole : List Char)
    (fraction : Option (List Char)) (exponent : ℤ) :
    writtenExponent ⟨negative, whole, fraction,
      some (decide (exponent < 0), Nat.toDigits 10 exponent.natAbs)⟩ = exponent := by
  by_cases small : exponent < 0
  · simp [writtenExponent, small, abs_of_neg small]
  · simp [writtenExponent, small, abs_of_nonneg (not_lt.mp small)]

/-- Scientific notation spells a numeral of its digits. -/
theorem exists_scientificNotation (negative : Bool) {digits : List Char} (exponent : ℤ)
    (all_digits : ∀ character ∈ digits, character.isDigit = true)
    (leading : digits.head? ≠ some '0') (some_digit : digits ≠ []) :
    ∃ numeral : Numeral,
      numeral.Spelled (signText negative ++ Double.scientificNotation digits exponent) ∧
        Notes digits (exponent + 1) numeral := by
  obtain ⟨first, rest, rfl⟩ := List.exists_cons_of_ne_nil some_digit
  have whole : WholeDigits [first] :=
    ⟨by simpa [Digits] using all_digits first (by simp), fun zero => absurd zero leading⟩
  have written := exponentText_toDigits exponent
  cases rest with
  | nil =>
      have spelled := exists_spelled_notes negative [first] (exponent + 1) 0 whole (by simp)
        .absent written (by simp [allDigits])
        (by simp [lastPlace, writtenExponent_toDigits])
      simpa [Double.scientificNotation] using spelled
  | cons second others =>
      have fraction : Digits (second :: others) :=
        ⟨by simp, fun character member => all_digits character (by simp [member])⟩
      have spelled := exists_spelled_notes negative (first :: second :: others) (exponent + 1) 0
        whole (by simp) (.present fraction) written
        (by simp [allDigits]) (by simp [lastPlace, writtenExponent_toDigits])
      simpa [Double.scientificNotation] using spelled

/-- Whichever notation is chosen spells a numeral of its digits. -/
theorem exists_notation (negative : Bool) {digits : List Char} {leading : ℤ}
    (all_digits : ∀ character ∈ digits, character.isDigit = true)
    (first : digits.head? ≠ some '0') (nothing : digits = [] → leading = 0) :
    ∃ numeral : Numeral, numeral.Spelled (signText negative ++
        if Double.plainExponents.1 ≤ leading ∧ leading ≤ Double.plainExponents.2 then
          Double.plainNotation digits (leading + 1)
        else Double.scientificNotation digits leading) ∧
      Notes digits (leading + 1) numeral := by
  split
  · rename_i plain
    have within : leading ≤ 15 := plain.2
    exact exists_plainNotation negative all_digits first
      (fun empty => by simp [nothing empty]) (by omega)
  · rename_i scientific
    refine exists_scientificNotation negative leading all_digits first fun empty => scientific ?_
    rw [nothing empty]
    decide

/-- The digits of a whole number without the zeros behind them. -/
def strippedDigits (number : ℕ) : List Char :=
  ((Nat.toDigits 10 number).reverse.dropWhile (· == '0')).reverse

theorem exists_zeros (number : ℕ) :
    ∃ zeros, Nat.toDigits 10 number = strippedDigits number ++ List.replicate zeros '0' := by
  have dropped : ∀ character ∈ (Nat.toDigits 10 number).reverse.takeWhile (· == '0'),
      character = '0' := by
    intro character member
    simpa using List.all_eq_true.mp List.all_takeWhile character member
  have parts := (List.takeWhile_append_dropWhile (p := (· == '0'))
    (l := (Nat.toDigits 10 number).reverse)).symm
  rw [List.eq_replicate_of_mem dropped] at parts
  exact ⟨_, by simpa [strippedDigits] using congrArg List.reverse parts⟩

theorem strippedDigits_isDigit (number : ℕ) :
    ∀ character ∈ strippedDigits number, character.isDigit = true := by
  obtain ⟨zeros, zeros_eq⟩ := exists_zeros number
  intro character member
  exact (wholeDigits_toDigits number).1.2 character (zeros_eq ▸ List.mem_append_left _ member)

theorem ofDigitChars_strippedDigits {number zeros : ℕ}
    (zeros_eq : Nat.toDigits 10 number = strippedDigits number ++ List.replicate zeros '0') :
    10 ^ zeros * Nat.ofDigitChars 10 (strippedDigits number) 0 = number := by
  rw [← Nat.ofDigitChars_replicate_zero, ← Nat.ofDigitChars_append, ← zeros_eq]
  exact Nat.ofDigitChars_toDigits (by decide) (by decide)

theorem eq_zero_of_strippedDigits {number : ℕ} (empty : strippedDigits number = []) :
    number = 0 := by
  obtain ⟨zeros, zeros_eq⟩ := exists_zeros number
  rw [← ofDigitChars_strippedDigits zeros_eq, empty, Nat.ofDigitChars_nil, mul_zero]

theorem head?_strippedDigits (number : ℕ) : (strippedDigits number).head? ≠ some '0' := by
  intro begins
  obtain ⟨zeros, zeros_eq⟩ := exists_zeros number
  rcases Nat.eq_zero_or_pos number with rfl | positive
  · exact absurd begins (by decide)
  · refine head?_toDigits_ne_zero positive ?_
    rw [zeros_eq, List.head?_append, begins, Option.some_or]

end Numeral

namespace Double

open Numeral (Spelled)

/-- The text of a number spells a numeral that is at most half of a last place larger. -/
theorem exists_spelled_text (number : Double) :
    ∃ numeral : Numeral, numeral.Spelled number.text ∧
      Nat.ofDigitChars 10 numeral.whole 0 < Numeral.wordBound ∧
      (numeral.allDigits : ℚ) * 10 ^ numeral.lastPlace ≤
        (number.significand + 1 / 2) * 2 ^ number.exponent := by
  unfold text
  dsimp only
  split
  · obtain ⟨numeral, spelled, short, value_eq⟩ := Numeral.exists_plainNotation number.negative
      (List.forall_mem_nil _) (by simp) (fun _ => rfl) (by decide)
    refine ⟨numeral, spelled, short, ?_⟩
    rw [value_eq, Nat.ofDigitChars_nil, Nat.cast_zero, zero_mul]
    positivity
  · obtain ⟨le, some_digits⟩ := number.shortest_spec
    generalize number.shortest = decimal at le some_digits ⊢
    obtain ⟨zeros, zeros_eq⟩ := Numeral.exists_zeros decimal.digits
    have nothing (empty : Numeral.strippedDigits decimal.digits = []) :
        decimal.exponent + (Nat.toDigits 10 decimal.digits).length - 1 = 0 := by
      have zero := some_digits.resolve_left (Numeral.eq_zero_of_strippedDigits empty).not_gt
      rw [zero]
      rfl
    obtain ⟨numeral, spelled, short, value_eq⟩ := Numeral.exists_notation number.negative
      (Numeral.strippedDigits_isDigit _) (Numeral.head?_strippedDigits _) nothing
    refine ⟨numeral, spelled, short, ?_⟩
    have place_eq : decimal.exponent + (Nat.toDigits 10 decimal.digits).length - 1 + 1 -
        (Numeral.strippedDigits decimal.digits).length = decimal.exponent + zeros := by
      rw [zeros_eq, List.length_append, List.length_replicate]
      omega
    calc (numeral.allDigits : ℚ) * 10 ^ numeral.lastPlace
        = Nat.ofDigitChars 10 (Numeral.strippedDigits decimal.digits) 0 *
            10 ^ (decimal.exponent + zeros) := by rw [value_eq, place_eq]
      _ = (10 ^ zeros * Nat.ofDigitChars 10 (Numeral.strippedDigits decimal.digits) 0 : ℕ) *
            10 ^ decimal.exponent := by
          rw [zpow_add₀ (by norm_num), zpow_natCast]
          push_cast
          ring
      _ = decimal.digits * 10 ^ decimal.exponent := by
          rw [Numeral.ofDigitChars_strippedDigits zeros_eq]
      _ ≤ (number.significand + 1 / 2) * 2 ^ number.exponent := le

/-- Half of a last place and two roundings more than a number stay below the limit, except for the
two largest magnitudes. -/
theorem room_of_smaller {number : Double}
    (smaller : number.significand + 2 < significandBound ∨ number.exponent < 971) :
    (number.significand + 1 / 2) * 2 ^ number.exponent * (1 + 1 / 2 ^ 53 : ℚ) ^ 2 <
      roundingLimit := by
  obtain ⟨bounded, -, exponent_le, -⟩ := number.fits
  have significand_lt : (number.significand : ℚ) + 1 ≤ 9007199254740992 := by
    exact_mod_cast bounded
  have unit_le : (2 : ℚ) ^ number.exponent ≤ largestUnit := two_zpow_le exponent_le
  have doubled : number.exponent < 971 → 2 * (2 : ℚ) ^ number.exponent ≤ largestUnit := by
    intro lower
    have doubled := two_pow_mul_zpow 1 number.exponent
    rw [pow_one] at doubled
    rw [doubled]
    exact two_zpow_le (by omega)
  have largest_pos := largestUnit_pos
  have unit_pos := two_zpow_pos number.exponent
  rw [roundingLimit]
  generalize (2 : ℚ) ^ number.exponent = unit at *
  generalize largestUnit = largest at *
  rcases smaller with smaller | lower
  · have smaller_rat : (number.significand : ℚ) + 3 ≤ 9007199254740992 := by
      exact_mod_cast smaller
    calc (number.significand + 1 / 2) * unit * (1 + 1 / 2 ^ 53 : ℚ) ^ 2
        ≤ (9007199254740992 - 5 / 2) * largest * (1 + 1 / 2 ^ 53) ^ 2 := by
          gcongr
          linarith
      _ < (2 ^ 53 - 1 / 2) * largest := by linarith
  · have half_le : unit ≤ largest / 2 := by linarith [doubled lower]
    calc (number.significand + 1 / 2) * unit * (1 + 1 / 2 ^ 53 : ℚ) ^ 2
        ≤ 9007199254740992 * (largest / 2) * (1 + 1 / 2 ^ 53) ^ 2 := by
          gcongr
          linarith
      _ < (2 ^ 53 - 1 / 2) * largest := by linarith

/-- The text of a number spells a numeral that has a number. -/
theorem exists_toDouble?_text (number : Double) :
    ∃ numeral : Numeral, numeral.Spelled number.text ∧
      ∃ read, numeral.toDouble? = some read := by
  by_cases smaller : number.significand + 2 < significandBound ∨ number.exponent < 971
  · obtain ⟨numeral, spelled, short, le⟩ := number.exists_spelled_text
    refine ⟨numeral, spelled, Numeral.exists_toDouble?_of_lt short ?_⟩
    exact (mul_le_mul_of_nonneg_right le (by positivity)).trans_lt (room_of_smaller smaller)
  · obtain ⟨negative, significand, exponent, fits⟩ := number
    obtain ⟨bounded, -, exponent_le, -⟩ := id fits
    obtain ⟨near, high⟩ := not_or.mp smaller
    dsimp only [significandBound] at bounded near high
    obtain rfl : exponent = 971 := by omega
    have reads : ((Numeral.ofText? (text ⟨negative, significand, 971, fits⟩)).bind
        Numeral.toDouble?).isSome = true := by
      obtain rfl | rfl : significand = 9007199254740990 ∨ significand = 9007199254740991 := by
        omega
      all_goals
        cases negative <;>
          · revert fits
            decide +kernel
    obtain ⟨read, reads⟩ := Option.isSome_iff_exists.mp reads
    obtain ⟨numeral, spelled, found⟩ := Option.bind_eq_some_iff.mp reads
    exact ⟨numeral, (Numeral.ofText?_eq_some_iff _ _).mp spelled, read, found⟩

end Double

end GatewayLink
