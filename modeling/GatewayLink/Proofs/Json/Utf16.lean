import GatewayLink.Json.Token

/-!
# Escapes and UTF-16

The four-digit escapes of a string name UTF-16 units.  `joinPieces?` reads the parts of a string as
the one text that has the same units, and as none where half of a surrogate pair stands alone.
-/

namespace GatewayLink

namespace Json

/-- The UTF-16 units of a character: itself, or a surrogate pair. -/
def utf16 (character : Char) : List Nat :=
  if character.toNat < 0x10000 then [character.toNat]
  else [0xD800 + (character.toNat - 0x10000) / 0x400, 0xDC00 + (character.toNat - 0x10000) % 0x400]

/-- The UTF-16 units of a part of a string. -/
def Piece.units : Piece → List Nat
  | .character value => utf16 value
  | .unit value => [value]

/-- Whether a unit is half of a surrogate pair. -/
def IsSurrogate (unit : Nat) : Prop :=
  0xD800 ≤ unit ∧ unit < 0xE000

theorem toNat_bound (character : Char) : character.toNat < 0x110000 := by
  have valid := character.valid
  simp only [UInt32.isValidChar, Nat.isValidChar] at valid
  change character.val.toNat < _
  omega

theorem not_isSurrogate_toNat (character : Char) : ¬ IsSurrogate character.toNat := by
  have valid := character.valid
  simp only [UInt32.isValidChar, Nat.isValidChar] at valid
  change ¬ (_ ≤ character.val.toNat ∧ character.val.toNat < _)
  omega

theorem toNat_ofNat {code : Nat} (range : code < 0x110000) (plain : ¬ IsSurrogate code) :
    (Char.ofNat code).toNat = code := by
  have valid : code.isValidChar := by
    simp only [IsSurrogate] at plain
    simp only [Nat.isValidChar]
    omega
  rw [Char.ofNat, dif_pos valid]
  rfl

theorem utf16_eq_cons (character : Char) :
    ∃ first rest, utf16 character = first :: rest ∧ ¬ (0xDC00 ≤ first ∧ first < 0xE000) := by
  have bound := toNat_bound character
  have plain := not_isSurrogate_toNat character
  simp only [IsSurrogate] at plain
  by_cases small : character.toNat < 0x10000
  · exact ⟨character.toNat, [], by simp [utf16, small], by omega⟩
  · exact ⟨_, _, if_neg small, by omega⟩

/-- A character that begins with a first half goes on with a second half. -/
theorem utf16_of_high {character : Char} {high : Nat} {rest : List Nat}
    (begins : utf16 character = high :: rest) (surrogate : IsSurrogate high) :
    ∃ low, rest = [low] ∧ 0xDC00 ≤ low ∧ low < 0xE000 := by
  have bound := toNat_bound character
  have plain := not_isSurrogate_toNat character
  by_cases small : character.toNat < 0x10000
  · simp only [utf16, small, if_true, List.cons.injEq] at begins
    exact absurd (begins.1 ▸ surrogate) plain
  · simp only [utf16, small, if_false, List.cons.injEq] at begins
    exact ⟨_, begins.2.symm, by omega, by omega⟩

/-- UTF-16 is a prefix code. -/
theorem utf16_append_inj {left right : Char} {leftRest rightRest : List Nat}
    (same : utf16 left ++ leftRest = utf16 right ++ rightRest) :
    left = right ∧ leftRest = rightRest := by
  have leftBound := toNat_bound left
  have rightBound := toNat_bound right
  have leftPlain := not_isSurrogate_toNat left
  have rightPlain := not_isSurrogate_toNat right
  simp only [IsSurrogate] at leftPlain rightPlain
  by_cases leftSmall : left.toNat < 0x10000 <;> by_cases rightSmall : right.toNat < 0x10000 <;>
    simp only [utf16, leftSmall, rightSmall, if_true, if_false, List.cons_append, List.nil_append,
      List.cons.injEq] at same
  · exact ⟨Char.toNat_inj.1 same.1, same.2⟩
  · omega
  · omega
  · exact ⟨Char.toNat_inj.1 (by omega), same.2.2⟩

/-- A text that begins with the units of a character begins with that character. -/
theorem utf16_append_eq_flatMap {character : Char} {rest : List Nat} {text : List Char} :
    utf16 character ++ rest = text.flatMap utf16 ↔
      ∃ others, text = character :: others ∧ rest = others.flatMap utf16 := by
  constructor
  · intro same
    cases text with
    | nil =>
        obtain ⟨first, _, begins, -⟩ := utf16_eq_cons character
        simp [begins] at same
    | cons head others =>
        rw [List.flatMap_cons] at same
        obtain ⟨rfl, rfl⟩ := utf16_append_inj same
        exact ⟨others, rfl, rfl⟩
  · rintro ⟨others, rfl, rfl⟩
    rw [List.flatMap_cons]

/-- Half of a pair begins a text only if it is a first half before a second half. -/
theorem surrogate_cons_eq_flatMap {high : Nat} (rest : List Nat) {text : List Char}
    (surrogate : IsSurrogate high) (same : high :: rest = text.flatMap utf16) :
    high < 0xDC00 ∧ ∃ low others, rest = low :: others ∧ 0xDC00 ≤ low ∧ low < 0xE000 := by
  cases text with
  | nil => simp at same
  | cons head others =>
      obtain ⟨first, after, begins, no_low⟩ := utf16_eq_cons head
      rw [List.flatMap_cons, begins, List.cons_append, List.cons.injEq] at same
      obtain ⟨rfl, rfl⟩ := same
      obtain ⟨low, rfl, range⟩ := utf16_of_high begins surrogate
      simp only [IsSurrogate] at surrogate
      exact ⟨by omega, low, _, rfl, range⟩

theorem utf16_ofNat {code : Nat} (range : code < 0x10000) (plain : ¬ IsSurrogate code) :
    utf16 (Char.ofNat code) = [code] := by
  rw [utf16, toNat_ofNat (by omega) plain, if_pos range]

theorem utf16_pair {high low : Nat} (first : 0xD800 ≤ high ∧ high < 0xDC00)
    (second : 0xDC00 ≤ low ∧ low < 0xE000) :
    utf16 (Char.ofNat (0x10000 + (high - 0xD800) * 0x400 + (low - 0xDC00))) = [high, low] := by
  generalize code_eq : 0x10000 + (high - 0xD800) * 0x400 + (low - 0xDC00) = code
  have range : 0x10000 ≤ code ∧ code < 0x110000 := by omega
  have plain : ¬ IsSurrogate code := by
    simp only [IsSurrogate]
    omega
  have high_eq : 0xD800 + (code - 0x10000) / 0x400 = high := by omega
  have low_eq : 0xDC00 + (code - 0x10000) % 0x400 = low := by omega
  rw [utf16, toNat_ofNat range.2 plain, if_neg (by omega), high_eq, low_eq]

/-- Each unit fits sixteen bits. -/
def UnitsFit (pieces : List Piece) : Prop :=
  ∀ value, .unit value ∈ pieces → value < 0x10000

theorem map_cons_iff {character : Char} {rest : Option (List Char)} {units : List Nat}
    (reads : ∀ others, rest = some others ↔ units = others.flatMap utf16) (text : List Char) :
    rest.map (character :: ·) = some text ↔ utf16 character ++ units = text.flatMap utf16 := by
  rw [utf16_append_eq_flatMap, Option.map_eq_some_iff]
  constructor
  · rintro ⟨others, found, rfl⟩
    exact ⟨others, rfl, (reads others).1 found⟩
  · rintro ⟨others, rfl, same⟩
    exact ⟨others, (reads others).2 same, rfl⟩

/-- The parts of a string are read as the text with the same units. -/
theorem joinPieces?_eq_some_iff {pieces : List Piece} (fit : UnitsFit pieces) (text : List Char) :
    joinPieces? pieces = some text ↔ pieces.flatMap Piece.units = text.flatMap utf16 := by
  fun_induction joinPieces? pieces generalizing text with
  | case1 =>
      cases text with
      | nil => simp
      | cons head others =>
          obtain ⟨first, after, begins, -⟩ := utf16_eq_cons head
          simp [begins]
  | case2 value rest ih =>
      have rest_fits : UnitsFit rest := fun unit member => fit unit (List.mem_cons_of_mem _ member)
      exact map_cons_iff (ih rest_fits) text
  | case3 high low rest first second ih =>
      have rest_fits : UnitsFit rest := fun unit member => fit unit (by simp [member])
      rw [map_cons_iff (ih rest_fits), utf16_pair first second]
      rfl
  | case4 high low rest first no_second =>
      simp only [reduceCtorEq, false_iff]
      intro same
      obtain ⟨-, other, _, begins, second⟩ :=
        surrogate_cons_eq_flatMap (low :: rest.flatMap Piece.units) ⟨first.1, by omega⟩ same
      obtain ⟨rfl, -⟩ := List.cons.inj begins
      exact no_second second
  | case5 high low rest no_first second =>
      simp only [reduceCtorEq, false_iff]
      intro same
      have first := surrogate_cons_eq_flatMap (low :: rest.flatMap Piece.units)
        ⟨by omega, second.2⟩ same
      omega
  | case6 high low rest no_first no_second ih =>
      have rest_fits : UnitsFit (.unit low :: rest) :=
        fun unit member => fit unit (List.mem_cons_of_mem _ member)
      have plain : ¬ IsSurrogate high := by
        simp only [IsSurrogate]
        omega
      rw [map_cons_iff (ih rest_fits), utf16_ofNat (fit high (by simp)) plain]
      rfl
  | case7 value rest alone surrogate =>
      simp only [reduceCtorEq, false_iff]
      intro same
      obtain ⟨-, low, _, begins, second⟩ :=
        surrogate_cons_eq_flatMap (rest.flatMap Piece.units) surrogate same
      cases rest with
      | nil => simp at begins
      | cons piece others =>
          cases piece with
          | unit next => exact alone next others rfl
          | character next =>
              obtain ⟨unit, _, starts, no_low⟩ := utf16_eq_cons next
              simp only [List.flatMap_cons, Piece.units, starts, List.cons_append,
                List.cons.injEq] at begins
              exact no_low (begins.1 ▸ second)
  | case8 value rest alone plain ih =>
      have rest_fits : UnitsFit rest := fun unit member => fit unit (List.mem_cons_of_mem _ member)
      rw [map_cons_iff (ih rest_fits), utf16_ofNat (fit value (by simp)) plain]
      rfl

end Json

end GatewayLink
