import GatewayLink.Url.Composition
import GatewayLink.Url.LabelTables
import GatewayLink.Url.MappingTables
import GatewayLink.Url.Punycode

/-!
# Domain names

A domain name is brought to its ASCII form: characters are mapped to those they stand for and
composed, encoded labels are decoded, and a label beyond ASCII must obey the rules for
internationalized names.  For the form itself only the labels that are all ASCII matter; the others
stand as they are.
-/

namespace GatewayLink

namespace DomainName

/-- Whether an ASCII character may not stand in a domain name. -/
def isForbidden (character : Char) : Bool :=
  character.toNat ≤ 0x20 || character.toNat == 0x7F ||
    ['%', '#', '/', ':', '<', '>', '?', '@', '[', '\\', ']', '^', '|'].contains character

/-- The text that a character beyond ASCII stands for, if it is another one. -/
def otherText? (character : Char) : Option (List Char) :=
  match MappingTables.shifts.findSome? (·.shifted? character) with
  | some other => some [other]
  | none => MappingTables.texts.findSome? (·.text? character)

/-- What a character stands for; nothing where it is not allowed. -/
def mapped? (character : Char) : Option (List Char) :=
  if Composition.isAscii character then some [character.toLower]
  else if MappingTables.ignored.contains character then some []
  else
    match otherText? character with
    | some text => some text
    | none => if MappingTables.disallowed.contains character then none else some [character]

/-- The characters that a name stands for. -/
def mapAll? : List Char → Option (List Char)
  | [] => some []
  | character :: rest => do
    let first ← mapped? character
    let others ← mapAll? rest
    return first ++ others

/-! ### Directions -/

/-- The direction of a character. -/
inductive Direction where
  | left
  | right
  | arabicNumber
  | europeanNumber
  | nonspacing
  | neutral
  deriving DecidableEq, Repr

/-- The direction of a character that may stand in a name. -/
def direction (character : Char) : Direction :=
  if Composition.isAscii character then
    if character.isAlpha then .left else if character.isDigit then .europeanNumber else .neutral
  else if LabelTables.rightToLeft.contains character then .right
  else if LabelTables.arabicNumbers.contains character then .arabicNumber
  else if LabelTables.europeanNumbers.contains character then .europeanNumber
  else if LabelTables.nonspacing.contains character then .nonspacing
  else if LabelTables.neutral.contains character then .neutral
  else .left

/-- Whether the directions of a label agree.  A label that begins from right to left holds no
letters from left to right, nor both kinds of numbers, and ends in a letter or a number; one that
begins from left to right holds no letters and no Arabic numbers of the other direction. -/
def directionsAgree (label : List Char) : Bool :=
  let directions := label.map direction
  let last := (directions.reverse.dropWhile (· == .nonspacing)).head?
  match directions.head? with
  | some .right =>
    !directions.contains .left &&
      (last == some .right || last == some .arabicNumber || last == some .europeanNumber) &&
      !(directions.contains .arabicNumber && directions.contains .europeanNumber)
  | some .left =>
    !directions.contains .right && !directions.contains .arabicNumber &&
      (last == some .left || last == some .europeanNumber)
  | _ => false

/-- Whether a name holds characters of a script that runs from right to left. -/
def isBidirectional (name : List Char) : Bool :=
  name.any fun character => direction character == .right || direction character == .arabicNumber

/-! ### Labels -/

/-- Whether the first letter beyond transparent characters joins in some way. -/
def joins (letters : CodeSet) (text : List Char) : Bool :=
  (text.dropWhile LabelTables.transparent.contains).head?.any letters.contains

/-- The class of the marks after which any joiner may stand. -/
def viramaClass : Nat := 9

/-- Whether a character may stand between what is before it, in reverse, and what is after it: a
joiner follows a mark that takes joiners, and the one that parts letters may also stand between two
letters that would join. -/
def joinerAgrees (before : List Char) (character : Char) (after : List Char) : Bool :=
  if character.toNat = 0x200C ∨ character.toNat = 0x200D then
    match before with
    | [] => false
    | previous :: _ =>
      Composition.classOf previous == viramaClass ||
        (character.toNat == 0x200C && joins LabelTables.joinsLeft before &&
          joins LabelTables.joinsRight after)
  else true

/-- Whether every joiner may stand where it does, after what is before, in reverse. -/
def joinersAgree (before : List Char) : List Char → Bool
  | [] => true
  | character :: rest =>
    joinerAgrees before character rest && joinersAgree (character :: before) rest

/-- The greatest length of a label beyond ASCII. -/
def labelLimit : Nat := 1000

/-- The greatest length of an encoded label. -/
def encodedLimit : Nat := 2000

/-- Whether a label obeys the rules, apart from its direction. -/
def isWellFormed (label : List Char) : Bool :=
  label.all Composition.isAscii ||
    (!label.head?.any LabelTables.marks.contains && joinersAgree [] label &&
      label.length ≤ labelLimit)

/-- Whether a character may stand in a decoded label: it stands for itself. -/
def standsForItself (character : Char) : Bool :=
  mapped? character == some [character] && !isForbidden character

/-- Whether a decoded label is left as it is by mapping and composing. -/
def isStable (label : List Char) : Bool :=
  label.all standsForItself && Composition.composed label == label

/-- Whether a text can be what follows the mark of an encoded label. -/
def isEncoded (text : List Char) : Bool :=
  text.getLast?.any (· != '-') && text.all Composition.isAscii && text.length ≤ encodedLimit

/-- The mark of an encoded label. -/
def encodedMark : List Char := ['x', 'n', '-', '-']

/-- The label that a mapped label stands for, where it is allowed. -/
def label? (label : List Char) : Option (List Char) :=
  if encodedMark.isPrefixOf label then
    let encoded := label.drop encodedMark.length
    if isEncoded encoded then
      (Punycode.decode? encoded).filter fun decoded => isStable decoded && isWellFormed decoded
    else none
  else if isWellFormed label then some label
  else none

/-- The ASCII form of a name, up to the encoding of labels beyond ASCII; nothing where the name
breaks a rule. -/
def toAscii? (name : List Char) : Option (List Char) := do
  let mapped ← mapAll? name
  let name := Composition.composed mapped
  let labels ← (partsAt '.' name).mapM label?
  if name.any isForbidden then none
  else if isBidirectional (labels.flatten) &&
      !labels.all fun label => label.isEmpty || directionsAgree label then
    none
  else some name

end DomainName

end GatewayLink
