import GatewayLink.Numeral.Written

/-!
# The grammar of numerals

A numeral is spelled as an optional minus sign, whole digits, and optionally a fraction and an
exponent.  The digits of a whole number are such whole digits.  `Numeral.ofText?` reads exactly the
texts of this grammar, so a text spells one numeral at most.
-/

namespace GatewayLink

/-- Only the digits of zero begin with `0`. -/
theorem head?_toDigits_ne_zero {number : Nat} (positive : 0 < number) :
    (Nat.toDigits 10 number).head? ≠ some '0' := by
  induction number using Nat.strongRecOn with
  | ind number ih =>
      by_cases small : number < 10
      · have nonzero : ∀ digit < 10, 0 < digit → Nat.digitChar digit ≠ '0' := by decide
        rw [Nat.toDigits_of_lt_base small, List.head?_cons, ne_eq, Option.some.injEq]
        exact nonzero number small positive
      · have shorter := ih (number / 10) (by omega) (by omega)
        rw [Nat.toDigits_of_base_le (by decide) (by omega)]
        cases digits : Nat.toDigits 10 (number / 10) with
        | nil => exact absurd digits Nat.toDigits_ne_nil
        | cons first rest => simpa [digits] using shorter

namespace Numeral

/-- At least one digit. -/
def Digits (text : List Char) : Prop :=
  text ≠ [] ∧ ∀ character ∈ text, character.isDigit = true

/-- Digits that begin with `0` only if there are no others. -/
def WholeDigits (text : List Char) : Prop :=
  Digits text ∧ (text.head? = some '0' → text = ['0'])

/-- A point and digits, or nothing. -/
inductive FractionText : Option (List Char) → List Char → Prop
  | absent : FractionText none []
  | present {digits : List Char} (some_digits : Digits digits) :
      FractionText (some digits) ('.' :: digits)

/-- The sign of an exponent, which is positive unless a minus says otherwise. -/
inductive ExponentSign : Bool → List Char → Prop
  | minus : ExponentSign true ['-']
  | plus : ExponentSign false ['+']
  | bare : ExponentSign false []

/-- A mark, a sign and digits, or nothing. -/
inductive ExponentText : Option (Bool × List Char) → List Char → Prop
  | absent : ExponentText none []
  | present {mark : Char} {negative : Bool} {sign digits : List Char}
      (marked : mark = 'e' ∨ mark = 'E') (signed : ExponentSign negative sign)
      (some_digits : Digits digits) :
      ExponentText (some (negative, digits)) (mark :: (sign ++ digits))

/-- The minus sign of a negative numeral. -/
def signText (negative : Bool) : List Char :=
  if negative then ['-'] else []

/-- A text spells a numeral. -/
inductive Spelled : Numeral → List Char → Prop
  | parts {negative : Bool} {whole fractionText exponentText : List Char}
      {fraction : Option (List Char)} {exponent : Option (Bool × List Char)}
      (digits : WholeDigits whole) (fractioned : FractionText fraction fractionText)
      (exponented : ExponentText exponent exponentText) :
      Spelled ⟨negative, whole, fraction, exponent⟩
        (signText negative ++ whole ++ fractionText ++ exponentText)

/-- A text does not begin with a digit. -/
def EndsDigits (text : List Char) : Prop :=
  ∀ character, text.head? = some character → character.isDigit = false

theorem endsDigits_nil : EndsDigits [] := by
  simp [EndsDigits]

theorem endsDigits_cons {character : Char} (rest : List Char)
    (other : character.isDigit = false) : EndsDigits (character :: rest) := by
  simpa [EndsDigits] using other

theorem takeWhile_digits {digits rest : List Char}
    (all_digits : ∀ character ∈ digits, character.isDigit = true) (ends : EndsDigits rest) :
    (digits ++ rest).takeWhile Char.isDigit = digits ∧
      (digits ++ rest).dropWhile Char.isDigit = rest := by
  have stops : rest.takeWhile Char.isDigit = [] ∧ rest.dropWhile Char.isDigit = rest := by
    cases rest with
    | nil => simp
    | cons character rest => simp [ends character rfl]
  rw [List.takeWhile_append_of_pos all_digits, List.dropWhile_append_of_pos all_digits, stops.1,
    stops.2]
  simp

theorem digits_takeWhile {text : List Char} (some_digits : text.takeWhile Char.isDigit ≠ []) :
    Digits (text.takeWhile Char.isDigit) :=
  ⟨some_digits, List.all_eq_true.1 List.all_takeWhile⟩

theorem digits_iff (text : List Char) :
    (text.isEmpty || !text.all Char.isDigit) = false ↔ Digits text := by
  simp [Digits]

theorem not_digits_of_sign {text : List Char} {sign : Char} (other : sign.isDigit = false)
    (begins : text.head? = some sign) : ¬ Digits text := by
  rintro ⟨-, all_digits⟩
  have digit := all_digits sign (List.mem_of_mem_head? begins)
  simp [other] at digit

/-- What follows an exponent mark is read as a sign and digits. -/
theorem exponentOf?_eq_some_iff (text : List Char) (negative : Bool) (digits : List Char) :
    exponentOf? text = some (negative, digits) ↔
      ∃ sign, ExponentSign negative sign ∧ Digits digits ∧ text = sign ++ digits := by
  constructor
  · intro reads
    unfold exponentOf? at reads
    split at reads
    all_goals
      split at reads <;> simp only [Option.some.injEq, Prod.mk.injEq, reduceCtorEq] at reads
      obtain ⟨rfl, rfl⟩ := reads
      rename_i valid
      have some_digits := (digits_iff _).1 (Bool.eq_false_iff.2 valid)
    · exact ⟨['-'], .minus, some_digits, rfl⟩
    · exact ⟨['+'], .plus, some_digits, rfl⟩
    · exact ⟨[], .bare, some_digits, rfl⟩
  · rintro ⟨sign, signed, some_digits, rfl⟩
    have valid := (digits_iff digits).2 some_digits
    cases signed with
    | minus => simp [exponentOf?, valid]
    | plus => simp [exponentOf?, valid]
    | bare =>
        rw [List.nil_append]
        unfold exponentOf?
        split
        · exact absurd some_digits (not_digits_of_sign (by decide) rfl)
        · exact absurd some_digits (not_digits_of_sign (by decide) rfl)
        · simp [valid]

/-- What follows the digits of a numeral without an exponent is read as an exponent. -/
theorem withExponent?_eq_some_iff (base : Numeral) (bare : base.exponent = none) (text : List Char)
    (numeral : Numeral) :
    base.withExponent? text = some numeral ↔
      ExponentText numeral.exponent text ∧ numeral = { base with exponent := numeral.exponent } := by
  cases text with
  | nil =>
      constructor
      · intro reads
        simp only [withExponent?, Option.some.injEq] at reads
        subst reads
        rw [bare]
        exact ⟨.absent, by rw [← bare]⟩
      · rintro ⟨exponented, same⟩
        cases written : numeral.exponent with
        | none =>
            rw [written] at same
            rw [same, withExponent?, ← bare]
        | some exponent =>
            rw [written] at exponented
            cases exponented
  | cons mark rest =>
      constructor
      · intro reads
        simp only [withExponent?, Option.ite_none_right_eq_some, Option.map_eq_some_iff] at reads
        obtain ⟨marked, ⟨negative, digits⟩, reads, rfl⟩ := reads
        obtain ⟨sign, signed, some_digits, rfl⟩ := (exponentOf?_eq_some_iff _ _ _).1 reads
        exact ⟨.present marked signed some_digits, rfl⟩
      · rintro ⟨exponented, same⟩
        obtain ⟨negative, whole, fraction, exponent⟩ := numeral
        cases exponented with
        | present marked signed some_digits =>
            have reads := (exponentOf?_eq_some_iff _ _ _).2 ⟨_, signed, some_digits, rfl⟩
            simp [withExponent?, marked, reads, ← same]

theorem ExponentText.endsDigits {exponent : Option (Bool × List Char)} {text : List Char}
    (exponented : ExponentText exponent text) : EndsDigits text := by
  cases exponented with
  | absent => exact endsDigits_nil
  | present marked signed some_digits =>
      rcases marked with rfl | rfl <;> exact endsDigits_cons _ (by decide)

/-- What follows the whole digits is read as a fraction and an exponent. -/
theorem withFraction?_eq_some_iff (negative : Bool) (whole text : List Char) (numeral : Numeral) :
    (Numeral.mk negative whole none none).withFraction? text = some numeral ↔
      ∃ fractionText exponentText,
        FractionText numeral.fraction fractionText ∧ ExponentText numeral.exponent exponentText ∧
          numeral.negative = negative ∧ numeral.whole = whole ∧
            text = fractionText ++ exponentText := by
  constructor
  · intro reads
    unfold withFraction? at reads
    split at reads
    · next rest =>
      simp only at reads
      split at reads
      · simp at reads
      · next some_digits =>
        have digits := digits_takeWhile (by simpa [List.isEmpty_iff] using some_digits)
        obtain ⟨exponented, same⟩ := (withExponent?_eq_some_iff _ rfl _ _).1 reads
        refine ⟨'.' :: rest.takeWhile Char.isDigit, rest.dropWhile Char.isDigit, ?_, exponented,
          ?_, ?_, by simp⟩
        · rw [same]
          exact .present digits
        · rw [same]
        · rw [same]
    · obtain ⟨exponented, same⟩ := (withExponent?_eq_some_iff _ rfl _ _).1 reads
      refine ⟨[], text, ?_, exponented, ?_, ?_, rfl⟩
      · rw [same]
        exact .absent
      · rw [same]
      · rw [same]
  · rintro ⟨fractionText, exponentText, fractioned, exponented, rfl, rfl, rfl⟩
    obtain ⟨negative, whole, fraction, exponent⟩ := numeral
    cases fractioned with
    | absent =>
        have plain : ∀ rest, exponentText ≠ '.' :: rest := by
          rintro rest rfl
          generalize exponent = written at exponented
          cases exponented with
          | present marked => simp at marked
        rw [List.nil_append]
        unfold withFraction?
        split
        · next rest => exact absurd rfl (plain rest)
        · exact (withExponent?_eq_some_iff _ rfl _ _).2 ⟨exponented, rfl⟩
    | present some_digits =>
        rename_i digits
        obtain ⟨takes, drops⟩ := takeWhile_digits some_digits.2 exponented.endsDigits
        have written : digits.isEmpty = false := by simpa [List.isEmpty_iff] using some_digits.1
        simp only [List.cons_append, withFraction?, takes, drops, written]
        exact (withExponent?_eq_some_iff _ rfl _ _).2 ⟨exponented, rfl⟩

theorem FractionText.endsDigits {fraction : Option (List Char)} {fractionText rest : List Char}
    (fractioned : FractionText fraction fractionText) (ends : EndsDigits rest) :
    EndsDigits (fractionText ++ rest) := by
  cases fractioned with
  | absent => exact ends
  | present some_digits => exact endsDigits_cons _ (by decide)

theorem wholeDigits_iff (text : List Char) :
    ((text.takeWhile Char.isDigit).isEmpty ||
        ((text.takeWhile Char.isDigit).head? == some '0' &&
          (text.takeWhile Char.isDigit).length != 1)) = false ↔
      WholeDigits (text.takeWhile Char.isDigit) := by
  generalize taken : text.takeWhile Char.isDigit = digits
  have all_digits : ∀ character ∈ digits, character.isDigit = true :=
    taken ▸ List.all_eq_true.1 List.all_takeWhile
  cases digits with
  | nil => simp [WholeDigits, Digits]
  | cons first rest =>
      simp only [List.isEmpty_cons, Bool.false_or, List.head?_cons, Bool.and_eq_false_iff,
        beq_eq_false_iff_ne, bne_eq_false_iff_eq, WholeDigits, Digits, List.length_cons,
        Option.some.injEq, ne_eq, reduceCtorEq, not_false_eq_true, true_and]
      constructor
      · rintro (other | single)
        · exact ⟨all_digits, fun zero => absurd zero other⟩
        · exact ⟨all_digits, fun zero => by simp_all⟩
      · rintro ⟨-, alone⟩
        by_cases zero : first = '0'
        · exact .inr (by simp_all)
        · exact .inl zero

/-- Whole digits, a fraction and an exponent are read after the sign. -/
theorem unsigned?_eq_some_iff (negative : Bool) (text : List Char) (numeral : Numeral) :
    unsigned? negative text = some numeral ↔
      numeral.negative = negative ∧ ∃ fractionText exponentText,
        WholeDigits numeral.whole ∧ FractionText numeral.fraction fractionText ∧
          ExponentText numeral.exponent exponentText ∧
            text = numeral.whole ++ fractionText ++ exponentText := by
  constructor
  · intro reads
    simp only [unsigned?] at reads
    split at reads
    · simp at reads
    · next valid =>
      have whole := (wholeDigits_iff text).1 (Bool.eq_false_iff.2 valid)
      obtain ⟨fractionText, exponentText, fractioned, exponented, same, digits, rest⟩ :=
        (withFraction?_eq_some_iff _ _ _ _).1 reads
      refine ⟨same, fractionText, exponentText, digits ▸ whole, fractioned, exponented, ?_⟩
      rw [digits, List.append_assoc, ← rest, List.takeWhile_append_dropWhile]
  · rintro ⟨rfl, fractionText, exponentText, whole, fractioned, exponented, rfl⟩
    have ends := fractioned.endsDigits exponented.endsDigits
    obtain ⟨takes, drops⟩ := takeWhile_digits whole.1.2 ends
    have valid := (wholeDigits_iff (numeral.whole ++ (fractionText ++ exponentText))).2
      (by rwa [takes])
    rw [takes] at valid
    simp only [unsigned?, List.append_assoc, takes, drops, valid, Bool.false_eq_true, if_false]
    exact (withFraction?_eq_some_iff _ _ _ _).2
      ⟨fractionText, exponentText, fractioned, exponented, rfl, rfl, rfl⟩

/-- A text is read as a numeral exactly if it spells that numeral. -/
theorem ofText?_eq_some_iff (text : List Char) (numeral : Numeral) :
    ofText? text = some numeral ↔ Spelled numeral text := by
  constructor
  · intro reads
    obtain ⟨negative, whole, fraction, exponent⟩ := numeral
    unfold ofText? at reads
    split at reads
    · obtain ⟨signed, _, _, digits, fractioned, exponented, rfl⟩ :=
        (unsigned?_eq_some_iff _ _ _).1 reads
      obtain rfl : negative = true := signed
      exact .parts digits fractioned exponented
    · obtain ⟨signed, _, _, digits, fractioned, exponented, rfl⟩ :=
        (unsigned?_eq_some_iff _ _ _).1 reads
      obtain rfl : negative = false := signed
      exact .parts digits fractioned exponented
  · rintro ⟨digits, fractioned, exponented⟩
    rename_i negative whole fractionText exponentText fraction exponent
    have reads := (unsigned?_eq_some_iff negative _ ⟨negative, whole, fraction, exponent⟩).2
      ⟨rfl, fractionText, exponentText, digits, fractioned, exponented, rfl⟩
    cases negative with
    | true => simpa [signText, ofText?] using reads
    | false =>
        obtain ⟨first, others, rfl⟩ := List.exists_cons_of_ne_nil digits.1.1
        have digit : first.isDigit = true := digits.1.2 first (by simp)
        have unsigned : first ≠ '-' := by
          rintro rfl
          simp at digit
        simpa [signText, ofText?, unsigned] using reads

theorem wholeDigits_toDigits (number : Nat) : WholeDigits (Nat.toDigits 10 number) := by
  refine ⟨⟨Nat.toDigits_ne_nil, fun character member => ?_⟩, fun zero => ?_⟩
  · exact Nat.isDigit_of_mem_toDigits (by decide) (by decide) member
  · rcases Nat.eq_zero_or_pos number with rfl | positive
    · rfl
    · exact absurd zero (head?_toDigits_ne_zero positive)

end Numeral

end GatewayLink
