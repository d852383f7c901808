import GatewayLink.Json.Document
import GatewayLink.Proofs.Json.Utf16
import GatewayLink.Proofs.Numeral.Grammar

/-!
# The grammar of texts

A text spells a sequence of tokens with blanks before, between and after them.  Together with
`Document.tokens`, which lists the tokens of a document, this is the grammar of JSON: a text spells
a document if it spells the tokens of that document.
-/

namespace GatewayLink

namespace Json

/-- A text of blanks only. -/
def Blank (text : List Char) : Prop :=
  ∀ character ∈ text, isBlank character = true

/-- A text spells a part of a string. -/
inductive Piece.Spelled : Piece → List Char → Prop
  | plain {character : Char} (printable : 0x20 ≤ character.toNat) (no_quote : character ≠ '"')
      (no_backslash : character ≠ '\\') : Spelled (.character character) [character]
  | short {letter character : Char} (escaped : shortEscape? letter = some character) :
      Spelled (.character character) ['\\', letter]
  | unit {first second third fourth : Char} {value : Nat}
      (written : unitOf? first second third fourth = some value) :
      Spelled (.unit value) ['\\', 'u', first, second, third, fourth]

/-- A text between two quotes spells the parts of a string. -/
inductive StringBody : List Piece → List Char → Prop
  | nil : StringBody [] []
  | cons {piece : Piece} {pieces : List Piece} {text rest : List Char}
      (spelled : piece.Spelled text) (body : StringBody pieces rest) :
      StringBody (piece :: pieces) (text ++ rest)

/-- A text spells a token. -/
inductive Token.Spelled : Token → List Char → Prop
  | openArray : Spelled .openArray ['[']
  | closeArray : Spelled .closeArray [']']
  | openObject : Spelled .openObject ['{']
  | closeObject : Spelled .closeObject ['}']
  | comma : Spelled .comma [',']
  | colon : Spelled .colon [':']
  | null : Spelled .null ['n', 'u', 'l', 'l']
  | yes : Spelled (.bool true) ['t', 'r', 'u', 'e']
  | no : Spelled (.bool false) ['f', 'a', 'l', 's', 'e']
  | number {numeral : Numeral} {text : List Char} (spelled : numeral.Spelled text) :
      Spelled (.number (Number.ofNumeral? numeral)) text
  /-- A string whose parts have the units of a text. -/
  | string {pieces : List Piece} {body : List Char} {text : String} (spelled : StringBody pieces body)
      (paired : pieces.flatMap Piece.units = text.toList.flatMap utf16) :
      Spelled (.string (some text)) ('"' :: (body ++ ['"']))
  /-- A string whose parts have the units of no text. -/
  | unpaired {pieces : List Piece} {body : List Char} (spelled : StringBody pieces body)
      (unpaired : ∀ text : List Char, pieces.flatMap Piece.units ≠ text.flatMap utf16) :
      Spelled (.string none) ('"' :: (body ++ ['"']))

/-- A text spells a sequence of tokens. -/
inductive Spelled : List Token → List Char → Prop
  | blank {text : List Char} (blank : Blank text) : Spelled [] text
  | token {token : Token} {tokens : List Token} {before lexeme rest : List Char}
      (blank : Blank before) (spelled : token.Spelled lexeme) (others : Spelled tokens rest) :
      Spelled (token :: tokens) (before ++ (lexeme ++ rest))

theorem blank_nil : Blank [] := by
  simp [Blank]

theorem Blank.append {left right : List Char} (leftBlank : Blank left) (rightBlank : Blank right) :
    Blank (left ++ right) := by
  intro character member
  rcases List.mem_append.1 member with member | member
  · exact leftBlank character member
  · exact rightBlank character member

theorem Spelled.append_blank {tokens : List Token} {text after : List Char}
    (spelled : Spelled tokens text) (blank : Blank after) : Spelled tokens (text ++ after) := by
  induction spelled with
  | blank here => exact .blank (here.append blank)
  | token here lexeme others ih =>
      simp only [List.append_assoc]
      exact .token here lexeme ih

theorem Spelled.prepend_blank {tokens : List Token} {text before : List Char}
    (blank : Blank before) (spelled : Spelled tokens text) : Spelled tokens (before ++ text) := by
  cases spelled with
  | blank here => exact .blank (blank.append here)
  | token here lexeme others =>
      rw [← List.append_assoc]
      exact .token (blank.append here) lexeme others

theorem Spelled.append {left right : List Token} {leftText rightText : List Char}
    (leftSpelled : Spelled left leftText) (rightSpelled : Spelled right rightText) :
    Spelled (left ++ right) (leftText ++ rightText) := by
  induction leftSpelled with
  | blank here => exact rightSpelled.prepend_blank here
  | token here lexeme others ih =>
      simp only [List.append_assoc, List.cons_append]
      exact .token here lexeme ih

theorem Token.Spelled.alone {token : Token} {text : List Char} (spelled : token.Spelled text) :
    Json.Spelled [token] text := by
  have alone := Json.Spelled.token blank_nil spelled (.blank blank_nil)
  simpa using alone

theorem toNat_le_of_le {left right : Char} (le : left ≤ right) : left.toNat ≤ right.toNat :=
  UInt32.le_iff_toNat_le.1 le

theorem hexValue?_lt {character : Char} {value : Nat} (digit : hexValue? character = some value) :
    value < 16 := by
  unfold hexValue? at digit
  split at digit
  · next range =>
    have upper := toNat_le_of_le range.2
    simp at digit upper
    omega
  · split at digit
    · next range =>
      have upper := toNat_le_of_le range.2
      simp at digit upper
      omega
    · split at digit
      · next range =>
        have upper := toNat_le_of_le range.2
        simp at digit upper
        omega
      · simp at digit

theorem unitOf?_lt {first second third fourth : Char} {value : Nat}
    (written : unitOf? first second third fourth = some value) : value < 0x10000 := by
  simp only [unitOf?, Option.bind_eq_bind, Option.bind_eq_some_iff, Option.pure_def,
    Option.some.injEq] at written
  obtain ⟨a, first, b, second, c, third, d, fourth, rfl⟩ := written
  have a_lt := hexValue?_lt first
  have b_lt := hexValue?_lt second
  have c_lt := hexValue?_lt third
  have d_lt := hexValue?_lt fourth
  omega

theorem StringBody.unitsFit {pieces : List Piece} {body : List Char}
    (spelled : StringBody pieces body) : UnitsFit pieces := by
  induction spelled with
  | nil => simp [UnitsFit]
  | cons piece rest ih =>
      intro value member
      rcases List.mem_cons.1 member with rfl | member
      · cases piece with
        | unit written => exact unitOf?_lt written
      · exact ih value member

/-- The string that the reader makes of some parts is the one that is spelled. -/
theorem StringBody.string {pieces : List Piece} {body : List Char}
    (spelled : StringBody pieces body) :
    Token.Spelled (.string ((joinPieces? pieces).map String.ofList)) ('"' :: (body ++ ['"'])) := by
  have reads := joinPieces?_eq_some_iff spelled.unitsFit
  cases joined : joinPieces? pieces with
  | none =>
      refine .unpaired spelled fun text same => ?_
      have read := (reads text).2 same
      simp [joined] at read
  | some text =>
      refine .string spelled ?_
      rw [String.toList_ofList]
      exact (reads text).1 joined

/-- What is spelled between quotes is what the reader makes of its parts. -/
theorem Token.Spelled.body {value : Option String} {text : List Char}
    (spelled : Token.Spelled (.string value) text) :
    ∃ pieces body, StringBody pieces body ∧ value = (joinPieces? pieces).map String.ofList ∧
      text = '"' :: (body ++ ['"']) := by
  cases spelled with
  | string spelled paired =>
      have read := (joinPieces?_eq_some_iff spelled.unitsFit _).2 paired
      exact ⟨_, _, spelled, by simp [read], rfl⟩
  | unpaired spelled unpaired =>
      refine ⟨_, _, spelled, ?_, rfl⟩
      symm
      rw [Option.map_eq_none_iff, Option.eq_none_iff_forall_ne_some]
      intro text read
      exact unpaired text ((joinPieces?_eq_some_iff spelled.unitsFit text).1 read)

end Json

end GatewayLink
