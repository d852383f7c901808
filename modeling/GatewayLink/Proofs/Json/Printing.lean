import GatewayLink.Json.Printer
import GatewayLink.Proofs.Json.Reading
import GatewayLink.Proofs.Json.Values
import GatewayLink.Proofs.Numeral.Text

/-!
# Printed values

The text of a value, on one line as well as over several, spells the document of that value, with
each binary64 number as its digits are read.  Where a value holds no binary64 number, its text is
read as that document again, and different values have different texts.
-/

namespace GatewayLink

namespace Numeral

/-- The numeral of an integer. -/
def ofInt (value : Int) : Numeral :=
  ⟨decide (value < 0), Nat.toDigits 10 value.natAbs, none, none⟩

theorem spelled_integerText (value : Int) : (ofInt value).Spelled (Json.integerText value) := by
  have spelled : Spelled (ofInt value) _ :=
    .parts (wholeDigits_toDigits value.natAbs) .absent .absent
  by_cases negative : value < 0 <;>
    simpa [ofInt, Json.integerText, signText, negative] using spelled

end Numeral

namespace Json

/-- The numeral of an integer has that integer as its number. -/
theorem Number.ofNumeral?_ofInt (value : Integer) :
    Number.ofNumeral? (Numeral.ofInt value.val) = some (.integer value) := by
  have whole : (Numeral.ofInt value.val).isWhole = true := rfl
  have magnitude : (Numeral.ofInt value.val).wholeValue = value.val.natAbs :=
    Nat.ofDigitChars_toDigits (by decide) (by decide)
  have signed : (if (Numeral.ofInt value.val).negative then -(value.val.natAbs : Int)
      else (value.val.natAbs : Int)) = value.val := by
    by_cases negative : value.val < 0 <;> simp only [Numeral.ofInt, negative, decide_true,
      decide_false, Bool.false_eq_true, if_true, if_false] <;> omega
  have in_range : Integer.ofInt? value.val = some value := by
    simp [Integer.ofInt?, value.property]
  have no_minus_zero : ((Numeral.ofInt value.val).negative && value.val == 0) = false := by
    by_cases zero : value.val = 0 <;> simp [Numeral.ofInt, zero]
  simp only [Number.ofNumeral?, magnitude, signed, in_range, whole, no_minus_zero, Bool.not_false,
    Bool.and_self, if_true]

/-- What the text of a number is read as. -/
def Number.reread (number : Number) : Number :=
  ((Numeral.ofText? number.text).bind ofNumeral?).getD number

theorem Number.reread_integer (value : Integer) : (integer value).reread = .integer value := by
  have written := (Numeral.ofText?_eq_some_iff _ _).mpr (Numeral.spelled_integerText value.val)
  simp [reread, text, written, ofNumeral?_ofInt]

theorem Number.exists_ofNumeral? {numeral : Numeral} {double : Double}
    (value : numeral.toDouble? = some double) : ∃ number, ofNumeral? numeral = some number := by
  unfold ofNumeral?
  dsimp only
  split
  · split
    · exact ⟨_, rfl⟩
    · exact ⟨.double double, by rw [value, Option.map_some]⟩
  · exact ⟨.double double, by rw [value, Option.map_some]⟩

/-- The text of a number spells a number. -/
theorem Token.spelled_text (number : Number) :
    Token.Spelled (.number (some number.reread)) number.text := by
  obtain ⟨numeral, spelled, read, found⟩ : ∃ numeral : Numeral, numeral.Spelled number.text ∧
      ∃ read, Number.ofNumeral? numeral = some read := by
    cases number with
    | integer value =>
        exact ⟨_, Numeral.spelled_integerText value.val, _, Number.ofNumeral?_ofInt value⟩
    | double value =>
        obtain ⟨numeral, spelled, double, found⟩ := value.exists_toDouble?_text
        exact ⟨numeral, spelled, Number.exists_ofNumeral? found⟩
  have written := (Numeral.ofText?_eq_some_iff _ _).mpr spelled
  have token := Token.Spelled.number spelled
  rwa [show Number.ofNumeral? numeral = some number.reread by
    simp [Number.reread, written, found]] at token

theorem unitOf?_control :
    ∀ code < 0x20, unitOf? '0' '0' (hexDigit (code / 16)) (hexDigit (code % 16)) = some code := by
  decide

/-- An escaped character spells a part of a string that has the units of the character. -/
theorem exists_spelled_escape (character : Char) :
    ∃ piece : Piece, piece.Spelled (escape character) ∧ piece.units = utf16 character := by
  unfold escape
  split
  case h_8 no_quote no_backslash _ _ _ _ _ =>
    split
    · next control =>
      have units : utf16 character = [character.toNat] := by
        rw [utf16, if_pos (by omega)]
      exact ⟨.unit character.toNat, .unit (unitOf?_control _ control), units.symm⟩
    · next printable =>
      exact ⟨.character character, .plain (Nat.not_lt.1 printable) no_quote no_backslash, rfl⟩
  all_goals exact ⟨.character _, .short rfl, rfl⟩

theorem exists_body_escape (text : List Char) :
    ∃ pieces, StringBody pieces (text.flatMap escape) ∧
      pieces.flatMap Piece.units = text.flatMap utf16 := by
  induction text with
  | nil => exact ⟨[], .nil, rfl⟩
  | cons character rest ih =>
      obtain ⟨piece, spelled, units⟩ := exists_spelled_escape character
      obtain ⟨pieces, body, rest_units⟩ := ih
      exact ⟨piece :: pieces, .cons spelled body, by simp [units, rest_units]⟩

theorem Token.spelled_quote (text : String) : Token.Spelled (.string (some text)) (quote text) := by
  obtain ⟨pieces, body, units⟩ := exists_body_escape text.toList
  exact .string body units

mutual

/-- The value with each number as its text is read. -/
def reread : Json → Json
  | .number value => .number value.reread
  | .array elements => .array (rereadElements elements)
  | .object members => .object (rereadMembers members)
  | value => value
termination_by structural value => value

/-- The elements with each number as its text is read. -/
def rereadElements : List Json → List Json
  | [] => []
  | element :: rest => element.reread :: rereadElements rest
termination_by structural elements => elements

/-- The members with each number as its text is read. -/
def rereadMembers : List (String × Json) → List (String × Json)
  | [] => []
  | (key, value) :: rest => (key, value.reread) :: rereadMembers rest
termination_by structural members => members

end

mutual

/-- Whether a value holds no binary64 number. -/
def WithoutDoubles : Json → Prop
  | .number (.double _) => False
  | .array elements => WithoutDoublesElements elements
  | .object members => WithoutDoublesMembers members
  | _ => True
termination_by structural value => value

/-- Whether no element holds a binary64 number. -/
def WithoutDoublesElements : List Json → Prop
  | [] => True
  | element :: rest => element.WithoutDoubles ∧ WithoutDoublesElements rest
termination_by structural elements => elements

/-- Whether no member holds a binary64 number. -/
def WithoutDoublesMembers : List (String × Json) → Prop
  | [] => True
  | (_, value) :: rest => value.WithoutDoubles ∧ WithoutDoublesMembers rest
termination_by structural members => members

end

theorem WithoutDoublesMembers.append {left right : List (String × Json)}
    (left_exact : WithoutDoublesMembers left) (right_exact : WithoutDoublesMembers right) :
    WithoutDoublesMembers (left ++ right) := by
  induction left with
  | nil => exact right_exact
  | cons member rest ih => exact ⟨left_exact.1, ih left_exact.2⟩

mutual

/-- Integers are read back. -/
theorem reread_of_withoutDoubles (value : Json) (exact_numbers : value.WithoutDoubles) :
    value.reread = value := by
  match value with
  | .null => rfl
  | .bool _ => rfl
  | .number (.integer value) => exact congrArg Json.number (Number.reread_integer value)
  | .number (.double _) => exact exact_numbers.elim
  | .string _ => rfl
  | .array elements => rw [reread, rereadElements_of_withoutDoubles elements exact_numbers]
  | .object members => rw [reread, rereadMembers_of_withoutDoubles members exact_numbers]
termination_by structural value

theorem rereadElements_of_withoutDoubles (elements : List Json)
    (exact_numbers : WithoutDoublesElements elements) : rereadElements elements = elements := by
  match elements with
  | [] => rfl
  | element :: rest =>
    rw [rereadElements, reread_of_withoutDoubles element exact_numbers.1,
      rereadElements_of_withoutDoubles rest exact_numbers.2]
termination_by structural elements

theorem rereadMembers_of_withoutDoubles (members : List (String × Json))
    (exact_numbers : WithoutDoublesMembers members) : rereadMembers members = members := by
  match members with
  | [] => rfl
  | (key, value) :: rest =>
    rw [rereadMembers, reread_of_withoutDoubles value exact_numbers.1,
      rereadMembers_of_withoutDoubles rest exact_numbers.2]
termination_by structural members

end

/-- A layout adds blanks only, and one colon. -/
structure Layout.Sound (layout : Layout) : Prop where
  blank : ∀ level, Blank (layout.lineBreak level)
  colon : Json.Spelled [.colon] layout.colon

theorem Layout.sound_compact : Layout.compact.Sound where
  blank _ := blank_nil
  colon := Token.Spelled.colon.alone

theorem Layout.sound_indented : Layout.indented.Sound where
  blank level := by
    intro character member
    rcases List.mem_cons.1 member with rfl | member
    · decide
    · rw [List.eq_of_mem_replicate member]
      decide
  colon := by
    have blank : Blank [' '] := by simp [Blank, isBlank]
    exact Token.Spelled.colon.alone.append_blank blank

mutual

/-- A printed value spells its document, with each number as its text is read. -/
theorem spelled_print {layout : Layout} (sound : layout.Sound) (level : Nat) (value : Json) :
    Spelled (Document.ofJson value.reread).tokens (print layout level value) := by
  match value with
  | .null => exact Token.Spelled.null.alone
  | .bool true => exact Token.Spelled.yes.alone
  | .bool false => exact Token.Spelled.no.alone
  | .number value => exact (Token.spelled_text value).alone
  | .string value => exact (Token.spelled_quote value).alone
  | .array [] => exact Token.Spelled.openArray.alone.append Token.Spelled.closeArray.alone
  | .array (element :: rest) =>
    have opens := Token.Spelled.openArray.alone.append_blank (sound.blank (level + 1))
    have first := spelled_print sound (level + 1) element
    have others := spelled_printElements sound (level + 1) rest
    have closes := Token.Spelled.closeArray.alone.prepend_blank (sound.blank level)
    have spelled := ((opens.append first).append others).append closes
    simpa [print, reread, rereadElements, Document.ofJson, Document.ofElements,
      Document.tokens] using spelled
  | .object [] => exact Token.Spelled.openObject.alone.append Token.Spelled.closeObject.alone
  | .object ((key, value) :: rest) =>
    have opens := Token.Spelled.openObject.alone.append_blank (sound.blank (level + 1))
    have named := (Token.spelled_quote key).alone.append sound.colon
    have first := spelled_print sound (level + 1) value
    have others := spelled_printMembers sound (level + 1) rest
    have closes := Token.Spelled.closeObject.alone.prepend_blank (sound.blank level)
    have spelled := (((opens.append named).append first).append others).append closes
    simpa [print, reread, rereadMembers, Document.ofJson, Document.ofMembers,
      Document.tokens] using spelled
termination_by structural value

theorem spelled_printElements {layout : Layout} (sound : layout.Sound) (level : Nat)
    (elements : List Json) :
    Spelled (Document.tokensOfElements (Document.ofElements (rereadElements elements)))
      (printElements layout level elements) := by
  match elements with
  | [] => exact .blank blank_nil
  | element :: rest =>
    have comma := Token.Spelled.comma.alone.append_blank (sound.blank level)
    have first := spelled_print sound level element
    have others := spelled_printElements sound level rest
    have spelled := (comma.append first).append others
    simpa [printElements, rereadElements, Document.ofElements,
      Document.tokensOfElements] using spelled
termination_by structural elements

theorem spelled_printMembers {layout : Layout} (sound : layout.Sound) (level : Nat)
    (members : List (String × Json)) :
    Spelled (Document.tokensOfMembers (Document.ofMembers (rereadMembers members)))
      (printMembers layout level members) := by
  match members with
  | [] => exact .blank blank_nil
  | (key, value) :: rest =>
    have comma := Token.Spelled.comma.alone.append_blank (sound.blank level)
    have named := (Token.spelled_quote key).alone.append sound.colon
    have first := spelled_print sound level value
    have others := spelled_printMembers sound level rest
    have spelled := ((comma.append named).append first).append others
    simpa [printMembers, rereadMembers, Document.ofMembers,
      Document.tokensOfMembers] using spelled
termination_by structural members

end

theorem spelled_indented_reread (value : Json) :
    Spelled (Document.ofJson value.reread).tokens value.indented.toList := by
  simpa [indented] using spelled_print Layout.sound_indented 0 value

theorem spelled_compact (value : Json) (exact_numbers : value.WithoutDoubles) :
    Spelled (Document.ofJson value).tokens value.compact.toList := by
  have spelled := spelled_print Layout.sound_compact 0 value
  simpa [compact, reread_of_withoutDoubles value exact_numbers] using spelled

theorem spelled_indented (value : Json) (exact_numbers : value.WithoutDoubles) :
    Spelled (Document.ofJson value).tokens value.indented.toList := by
  simpa [reread_of_withoutDoubles value exact_numbers] using spelled_indented_reread value

theorem read?_of_spelled {value : Json} {text : String} (canonical : value.Canonical)
    (shallow : value.depth ≤ nestingLimit)
    (spelled : Spelled (Document.ofJson value).tokens text.toList) : read? text = some value := by
  have read := (Document.read?_eq_some_iff text _).2 spelled
  simp [read?, read, Document.valueWithin?, shallow, Document.value?_ofJson value canonical]

theorem compact_injective {left right : Json} (left_exact : left.WithoutDoubles)
    (right_exact : right.WithoutDoubles) (same : left.compact = right.compact) : left = right := by
  have left_spelled := spelled_compact left left_exact
  rw [same] at left_spelled
  exact Document.ofJson_injective left right
    (Document.spelled_unique left_spelled (spelled_compact right right_exact))

end Json

end GatewayLink
