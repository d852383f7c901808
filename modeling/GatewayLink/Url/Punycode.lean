/-!
# Encoded labels

A label beyond ASCII is written as its ASCII characters, a hyphen, and numbers that say which other
characters are inserted and where.  The numbers are written in base 36 with digits of varying
weight, and they are held within 32 bits.
-/

namespace GatewayLink

namespace Punycode

/-- The numbers of 32 bits end below this one. -/
def wordLimit : Nat := 4294967296

/-- The value of a digit. -/
def digit? (character : Char) : Option Nat :=
  if 'a' ≤ character ∧ character ≤ 'z' then some (character.toNat - 'a'.toNat)
  else if character.isDigit then some (character.toNat - '0'.toNat + 26)
  else none

/-- Divides until little is left; how much the bias grows, and what is left. -/
def reduced (delta bias : Nat) : Nat × Nat :=
  if 455 < delta then reduced (delta / 35) (bias + 36) else (bias, delta)
termination_by delta
decreasing_by omega

/-- The bias after an insertion into a text that then has some length. -/
def adaptedBias (delta length : Nat) (isFirst : Bool) : Nat :=
  let delta := if isFirst then delta / 700 else delta / 2
  let (bias, rest) := reduced (delta + delta / length) 0
  bias + 36 * rest / (rest + 38)

/-- The least digit that does not end a number, at a position. -/
def threshold (bias position : Nat) : Nat :=
  min 26 (max 1 (position - bias))

/-- Reads a number and adds it to a value; the sum and what follows the number. -/
def number? (bias : Nat) : (weight position value : Nat) → List Char → Option (Nat × List Char)
  | _, _, _, [] => none
  | weight, position, value, character :: rest => do
    let digit ← digit? character
    let value := value + digit * weight
    let threshold := threshold bias position
    if wordLimit ≤ value then none
    else if digit < threshold then some (value, rest)
    else
      let weight := weight * (36 - threshold)
      if wordLimit ≤ weight then none else number? bias weight (position + 36) value rest

/-- What has been decoded, and where the next insertion counts from. -/
structure State where
  text : List Char
  code : Nat
  index : Nat
  bias : Nat

/-- The character of a code, if there is one. -/
def character? (code : Nat) : Option Char :=
  if code < 0x110000 ∧ ¬(0xD800 ≤ code ∧ code < 0xE000) then some (Char.ofNat code) else none

/-- Carries out one insertion. -/
def insert? (state : State) (encoded : List Char) : Option (State × List Char) := do
  let length := state.text.length + 1
  let (index, rest) ← number? state.bias 1 36 state.index encoded
  let code := state.code + index / length
  let position := index % length
  let character ← character? code
  return (⟨state.text.take position ++ character :: state.text.drop position, code, position + 1,
    adaptedBias (index - state.index) length (state.index == 0)⟩, rest)

/-- Carries out insertions, so many at most. -/
def insertAll? : Nat → State → List Char → Option (List Char)
  | _, state, [] => some state.text
  | 0, _, _ :: _ => none
  | steps + 1, state, encoded => do
    let (state, rest) ← insert? state encoded
    insertAll? steps state rest

/-- The label that an encoded one stands for; the last hyphen ends its ASCII characters. -/
def decode? (encoded : List Char) : Option (List Char) :=
  let basic := ((encoded.reverse.dropWhile (· != '-')).drop 1).reverse
  let numbers := if basic.isEmpty then encoded else encoded.drop (basic.length + 1)
  insertAll? numbers.length ⟨basic, 0x80, 0, 72⟩ numbers

end Punycode

end GatewayLink
