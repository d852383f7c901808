import GatewayLink.Json.Value
import GatewayLink.Numeral.Shortest

/-!
# Written JSON

A value is written on one line without blanks, or over several lines with two blanks of indentation
for each level.  Members appear in the order in which the value lists them.
-/

namespace GatewayLink

namespace Json

/-- A digit of a four-digit escape. -/
def hexDigit (value : Nat) : Char :=
  Nat.digitChar value

/-- One character of a string: a quote, a backslash and the control characters are escaped. -/
def escape (character : Char) : List Char :=
  match character with
  | '"' => ['\\', '"']
  | '\\' => ['\\', '\\']
  | '\x08' => ['\\', 'b']
  | '\t' => ['\\', 't']
  | '\n' => ['\\', 'n']
  | '\x0c' => ['\\', 'f']
  | '\r' => ['\\', 'r']
  | _ =>
    if character.toNat < 0x20 then
      ['\\', 'u', '0', '0', hexDigit (character.toNat / 16), hexDigit (character.toNat % 16)]
    else [character]

/-- A string in quotes. -/
def quote (text : String) : List Char :=
  '"' :: (text.toList.flatMap escape ++ ['"'])

/-- An integer in decimal. -/
def integerText (value : Int) : List Char :=
  if value < 0 then '-' :: Nat.toDigits 10 value.natAbs else Nat.toDigits 10 value.natAbs

/-- A number: the digits of an integer, or the shortest digits of a binary64 number. -/
def Number.text : Number → List Char
  | .integer value => integerText value.val
  | .double value => value.text

/-- Where lines break and what parts a key from its value. -/
structure Layout where
  /-- What stands before an element, or before a closing bracket, at a level of nesting. -/
  lineBreak : Nat → List Char
  colon : List Char

/-- All on one line, without blanks. -/
def Layout.compact : Layout where
  lineBreak _ := []
  colon := [':']

/-- Each element on a line of its own, two blanks deeper than its container. -/
def Layout.indented : Layout where
  lineBreak level := '\n' :: List.replicate (2 * level) ' '
  colon := [':', ' ']

mutual

/-- A value in a layout, at a level of nesting; empty containers take no lines. -/
def print (layout : Layout) (level : Nat) : Json → List Char
  | .null => ['n', 'u', 'l', 'l']
  | .bool true => ['t', 'r', 'u', 'e']
  | .bool false => ['f', 'a', 'l', 's', 'e']
  | .number value => value.text
  | .string value => quote value
  | .array [] => ['[', ']']
  | .array (element :: rest) =>
    '[' :: layout.lineBreak (level + 1) ++ print layout (level + 1) element ++
      printElements layout (level + 1) rest ++ layout.lineBreak level ++ [']']
  | .object [] => ['{', '}']
  | .object ((key, value) :: rest) =>
    '{' :: layout.lineBreak (level + 1) ++ quote key ++ layout.colon ++
      print layout (level + 1) value ++ printMembers layout (level + 1) rest ++
      layout.lineBreak level ++ ['}']
termination_by structural value => value

/-- The elements after the first, each with the comma before it. -/
def printElements (layout : Layout) (level : Nat) : List Json → List Char
  | [] => []
  | element :: rest =>
    ',' :: layout.lineBreak level ++ print layout level element ++ printElements layout level rest
termination_by structural elements => elements

/-- The members after the first, each with the comma before it. -/
def printMembers (layout : Layout) (level : Nat) : List (String × Json) → List Char
  | [] => []
  | (key, value) :: rest =>
    ',' :: layout.lineBreak level ++ quote key ++ layout.colon ++ print layout level value ++
      printMembers layout level rest
termination_by structural members => members

end

/-- The value on one line. -/
def compact (value : Json) : String :=
  String.ofList (print .compact 0 value)

/-- The value over several lines. -/
def indented (value : Json) : String :=
  String.ofList (print .indented 0 value)

end Json

end GatewayLink
