import GatewayLink.Text.Digits

/-!
# Tables of characters

Sets and maps of characters are written in lines of words, with characters in hexadecimal:

* `41` and `41-5A`: a character, and the characters from one to another;
* `300-314=230`: characters with their class;
* `C0-D6>E0` and `100-12E/2>101`: each character, or every second one, stands for the one that is
  as far from the given one as it is from the first of its range;
* `A8>20.308 61`: a character stands for a text, and so do the next ones for the texts that follow;
* `61.300>E0`: two characters are written as one.
-/

namespace GatewayLink

/-- The words of lines. -/
def wordsOf (lines : List String) : List (List Char) :=
  lines.flatMap fun line => (partsAt ' ' line.toList).filter (!·.isEmpty)

/-- The character that a hexadecimal number gives. -/
def codeOf (word : List Char) : Char :=
  Char.ofNat (numberInBase 16 word)

/-- A word up to a mark, and what follows the mark. -/
def cutAt (mark : Char) (word : List Char) : List Char × List Char :=
  (word.takeWhile (· != mark), (word.dropWhile (· != mark)).drop 1)

/-- The characters from one to another, both included. -/
structure CodeRange where
  first : Nat
  last : Nat
  deriving DecidableEq, Repr

namespace CodeRange

/-- Reads a range. -/
def ofWord (word : List Char) : CodeRange :=
  let (first, last) := cutAt '-' word
  ⟨numberInBase 16 first, numberInBase 16 (if last.isEmpty then first else last)⟩

/-- Whether a character lies in a range. -/
def contains (range : CodeRange) (character : Char) : Bool :=
  range.first ≤ character.toNat && character.toNat ≤ range.last

end CodeRange

/-- A set of characters. -/
structure CodeSet where
  ranges : List CodeRange

namespace CodeSet

/-- Reads a set. -/
def ofLines (lines : List String) : CodeSet :=
  ⟨(wordsOf lines).map CodeRange.ofWord⟩

/-- Whether a character belongs to a set. -/
def contains (set : CodeSet) (character : Char) : Bool :=
  set.ranges.any (·.contains character)

end CodeSet

/-- Characters with their class. -/
structure CodeClass where
  range : CodeRange
  value : Nat

namespace CodeClass

/-- Reads characters and their class. -/
def ofWord (word : List Char) : CodeClass :=
  let (range, value) := cutAt '=' word
  ⟨.ofWord range, numberInBase 10 value⟩

/-- Reads a table of classes. -/
def ofLines (lines : List String) : List CodeClass :=
  (wordsOf lines).map ofWord

/-- The class of a character; zero where it is in no table. -/
def classOf (classes : List CodeClass) (character : Char) : Nat :=
  match classes.find? (·.range.contains character) with
  | some entry => entry.value
  | none => 0

end CodeClass

/-- Characters that stand for one other character each. -/
structure CodeShift where
  range : CodeRange
  /-- Every how many characters of the range. -/
  step : Nat
  /-- What the first character of the range stands for. -/
  target : Nat

namespace CodeShift

/-- Reads a range of characters and what the first of them stands for. -/
def ofWord (word : List Char) : CodeShift :=
  let (source, target) := cutAt '>' word
  let (range, step) := cutAt '/' source
  ⟨.ofWord range, if step.isEmpty then 1 else numberInBase 10 step, numberInBase 16 target⟩

/-- Reads a table of shifts. -/
def ofLines (lines : List String) : List CodeShift :=
  (wordsOf lines).map ofWord

/-- What a character stands for. -/
def shifted? (shift : CodeShift) (character : Char) : Option Char :=
  let offset := character.toNat - shift.range.first
  if shift.range.contains character && offset % shift.step == 0 then
    some (Char.ofNat (shift.target + offset))
  else none

end CodeShift

/-- Characters in a row that stand for texts. -/
structure CodeTexts where
  first : Nat
  texts : List (List Char)

namespace CodeTexts

/-- The text of characters that are parted by dots. -/
def textOf (word : List Char) : List Char :=
  (partsAt '.' word).map codeOf

/-- Adds a word in front of the rows that have been read from the words after it: it begins a row,
or its text belongs to the row that is begun before it. -/
def addWord (word : List Char) (read : List (List Char) × List CodeTexts) :
    List (List Char) × List CodeTexts :=
  let (pending, rows) := read
  let (first, text) := cutAt '>' word
  if text.isEmpty then (textOf first :: pending, rows)
  else ([], ⟨numberInBase 16 first, textOf text :: pending⟩ :: rows)

/-- Reads a table of texts. -/
def ofLines (lines : List String) : List CodeTexts :=
  ((wordsOf lines).foldr addWord ([], [])).2

/-- The text that a character stands for. -/
def text? (row : CodeTexts) (character : Char) : Option (List Char) :=
  if row.first ≤ character.toNat then row.texts[character.toNat - row.first]? else none

end CodeTexts

/-- Two characters that are written as one. -/
structure CodePair where
  first : Char
  second : Char
  composite : Char

namespace CodePair

/-- Reads a pair and its composite. -/
def ofWord (word : List Char) : CodePair :=
  let (pair, composite) := cutAt '>' word
  let (first, second) := cutAt '.' pair
  ⟨codeOf first, codeOf second, codeOf composite⟩

/-- Reads a table of pairs. -/
def ofLines (lines : List String) : List CodePair :=
  (wordsOf lines).map ofWord

end CodePair

end GatewayLink
