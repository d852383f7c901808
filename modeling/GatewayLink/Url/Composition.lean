import GatewayLink.Url.CompositionTables

/-!
# Composed texts

A letter and the marks on it can be written in several ways.  The composed form takes all composites
apart, puts the marks on each character in the order of their classes, and joins what can be written
as one.  This is normalization form C for the characters that a domain name may hold.
-/

namespace GatewayLink

namespace Composition

/-- The first Korean syllable. -/
def firstSyllable : Nat := 0xAC00

/-- The two parts of a Korean syllable: leading consonant and vowel, or both of them and the
trailing consonant. -/
def syllableParts? (character : Char) : Option (Char × Char) :=
  let index := character.toNat - firstSyllable
  if firstSyllable ≤ character.toNat ∧ index < 19 * 21 * 28 then
    if index % 28 = 0 then
      some (Char.ofNat (0x1100 + index / (21 * 28)), Char.ofNat (0x1161 + index / 28 % 21))
    else
      some (Char.ofNat (firstSyllable + index / 28 * 28), Char.ofNat (0x11A7 + index % 28))
  else none

/-- The Korean syllable of two parts. -/
def syllable? (first second : Char) : Option Char :=
  let lead := first.toNat - 0x1100
  let vowel := second.toNat - 0x1161
  let open' := first.toNat - firstSyllable
  let trail := second.toNat - 0x11A7
  if 0x1100 ≤ first.toNat ∧ lead < 19 ∧ 0x1161 ≤ second.toNat ∧ vowel < 21 then
    some (Char.ofNat (firstSyllable + (lead * 21 + vowel) * 28))
  else if firstSyllable ≤ first.toNat ∧ open' < 19 * 21 * 28 ∧ open' % 28 = 0 ∧
      0x11A7 < second.toNat ∧ trail < 28 then
    some (Char.ofNat (first.toNat + trail))
  else none

/-- The two parts of a composite. -/
def parts? (character : Char) : Option (Char × Char) :=
  match syllableParts? character with
  | some parts => some parts
  | none =>
    (CompositionTables.pairs.find? (·.composite == character)).map fun pair =>
      (pair.first, pair.second)

/-- The composite of two characters. -/
def composite? (first second : Char) : Option Char :=
  match syllable? first second with
  | some character => some character
  | none =>
    (CompositionTables.pairs.find? fun pair => pair.first == first && pair.second == second).map
      (·.composite)

/-- How often a composite can be taken apart. -/
def depth : Nat := 4

/-- Takes a character apart, so many times at most; only the first part can be a composite. -/
def takeApart : Nat → Char → List Char
  | 0, character => [character]
  | steps + 1, character =>
    match parts? character with
    | some (first, second) => takeApart steps first ++ [second]
    | none => [character]

/-- The class of a mark; zero for what is no mark. -/
def classOf (character : Char) : Nat :=
  if character.toNat < 0x300 then 0 else CodeClass.classOf CompositionTables.classes character

/-- Puts a character in front of marks that are in order. -/
def insertMark (character : Char) : List Char → List Char
  | [] => [character]
  | other :: rest =>
    if 0 < classOf other ∧ classOf other < classOf character then
      other :: insertMark character rest
    else character :: other :: rest

/-- Puts the marks on each character in the order of their classes; marks of one class stay as they
are. -/
def ordered (text : List Char) : List Char :=
  text.foldr insertMark []

/-- Joins a character and what follows it.  The marks that have not been joined are kept in reverse,
and the class of the last of them keeps marks of its own class from being joined. -/
def joined (base : Char) (marks : List Char) (last : Nat) : List Char → List Char
  | [] => base :: marks.reverse
  | character :: rest =>
    let mark := classOf character
    let composite := if marks.isEmpty || last < mark then composite? base character else none
    match composite with
    | some base => joined base marks last rest
    | none =>
      if mark = 0 then base :: marks.reverse ++ joined character [] 0 rest
      else joined base (character :: marks) mark rest

/-- Joins what can be written as one; marks in front stand alone. -/
def joinAll : List Char → List Char
  | [] => []
  | character :: rest =>
    if classOf character = 0 then joined character [] 0 rest else character :: joinAll rest

/-- Whether a character is of ASCII. -/
def isAscii (character : Char) : Bool :=
  character.toNat < 0x80

/-- The composed form of a text; one of ASCII is composed. -/
def composed (text : List Char) : List Char :=
  if text.all isAscii then text else joinAll (ordered (text.flatMap (takeApart depth)))

end Composition

end GatewayLink
