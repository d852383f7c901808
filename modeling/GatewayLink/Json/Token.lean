import GatewayLink.Json.Value
import GatewayLink.Numeral.Written

/-!
# JSON tokens

The text of a document is a sequence of tokens with blanks between them.  A scanner reads it one
character at a time: `Scanner.feed` is a function of the state and the character, and
`Json.tokens?` folds it over the text.  A string whose escapes name half of a surrogate pair is
still a token, without a text, and so is a numeral beyond the largest number.
-/

namespace GatewayLink

namespace Json

/-- The number that a numeral stands for: an integer where it is whole and fits a word, otherwise a
binary64 number; nothing where that would be infinite.  Minus zero is a binary64 number. -/
def Number.ofNumeral? (numeral : Numeral) : Option Number :=
  let signed : Int := if numeral.negative then -numeral.wholeValue else numeral.wholeValue
  match Integer.ofInt? signed with
  | some value =>
    if numeral.isWhole && !(numeral.negative && value.val == 0) then some (.integer value)
    else numeral.toDouble?.map .double
  | none => numeral.toDouble?.map .double

/-- A token of a document. -/
inductive Token where
  | openArray
  | closeArray
  | openObject
  | closeObject
  | comma
  | colon
  | null
  | bool (value : Bool)
  /-- A numeral, with its number where that is finite. -/
  | number (value : Option Number)
  /-- A string, with its text where its escapes are paired. -/
  | string (value : Option String)
  deriving DecidableEq

/-- The blanks between tokens. -/
def isBlank (character : Char) : Bool :=
  character == ' ' || character == '\t' || character == '\n' || character == '\r'

/-- The token that is one character of punctuation. -/
def punctuation? : Char → Option Token
  | '[' => some .openArray
  | ']' => some .closeArray
  | '{' => some .openObject
  | '}' => some .closeObject
  | ',' => some .comma
  | ':' => some .colon
  | _ => none

/-- Whether a character continues a numeral. -/
def isNumeric (character : Char) : Bool :=
  character.isDigit || character == '-' || character == '+' || character == '.' ||
    character == 'e' || character == 'E'

/-- A part of a string: a character, or a UTF-16 unit from a four-digit escape. -/
inductive Piece where
  | character (value : Char)
  | unit (value : Nat)
  deriving DecidableEq

/-- The value of a digit of a four-digit escape. -/
def hexValue? (character : Char) : Option Nat :=
  if '0' ≤ character ∧ character ≤ '9' then some (character.toNat - '0'.toNat)
  else if 'a' ≤ character ∧ character ≤ 'f' then some (character.toNat - 'a'.toNat + 10)
  else if 'A' ≤ character ∧ character ≤ 'F' then some (character.toNat - 'A'.toNat + 10)
  else none

/-- The character that a one-letter escape stands for. -/
def shortEscape? : Char → Option Char
  | '"' => some '"'
  | '\\' => some '\\'
  | '/' => some '/'
  | 'b' => some '\x08'
  | 'f' => some '\x0c'
  | 'n' => some '\n'
  | 'r' => some '\r'
  | 't' => some '\t'
  | _ => none

/-- The UTF-16 unit of four hexadecimal digits. -/
def unitOf? (first second third fourth : Char) : Option Nat := do
  let first ← hexValue? first
  let second ← hexValue? second
  let third ← hexValue? third
  let fourth ← hexValue? fourth
  return ((first * 16 + second) * 16 + third) * 16 + fourth

/-- The parts of the text between two quotes; nothing for a malformed escape or a bare control
character. -/
def pieces? : List Char → Option (List Piece)
  | [] => some []
  | '\\' :: 'u' :: first :: second :: third :: fourth :: rest => do
    let value ← unitOf? first second third fourth
    let pieces ← pieces? rest
    return .unit value :: pieces
  | '\\' :: letter :: rest => do
    let value ← shortEscape? letter
    let pieces ← pieces? rest
    return .character value :: pieces
  | ['\\'] => none
  | character :: rest =>
    if character.toNat < 0x20 then none
    else (pieces? rest).map (.character character :: ·)

/-- The characters of a string's parts; nothing where half of a surrogate pair stands alone. -/
def joinPieces? : List Piece → Option (List Char)
  | [] => some []
  | .character value :: rest => (joinPieces? rest).map (value :: ·)
  | .unit high :: .unit low :: rest =>
    if 0xD800 ≤ high ∧ high < 0xDC00 then
      if 0xDC00 ≤ low ∧ low < 0xE000 then
        (joinPieces? rest).map
          (Char.ofNat (0x10000 + (high - 0xD800) * 0x400 + (low - 0xDC00)) :: ·)
      else none
    else if 0xDC00 ≤ high ∧ high < 0xE000 then none
    else (joinPieces? (.unit low :: rest)).map (Char.ofNat high :: ·)
  | .unit value :: rest =>
    if 0xD800 ≤ value ∧ value < 0xE000 then none
    else (joinPieces? rest).map (Char.ofNat value :: ·)

/-- The string token of the text between two quotes. -/
def stringToken? (body : List Char) : Option Token :=
  (pieces? body).map fun pieces => .string ((joinPieces? pieces).map String.ofList)

/-- The number token of a numeral's text. -/
def numberToken? (text : List Char) : Option Token :=
  (Numeral.ofText? text).map fun numeral => .number (Number.ofNumeral? numeral)

/-- What a scanner is in the middle of. -/
inductive Scanning where
  | betweenTokens
  /-- Inside a word, with the letters that must follow and the token it makes. -/
  | word (expected : List Char) (token : Token)
  /-- Inside a numeral, with its characters so far, last first. -/
  | numeral (reversed : List Char)
  /-- Inside a string, with its characters so far, last first, and whether the last one is a
  backslash that escapes the next. -/
  | string (reversed : List Char) (escaping : Bool)
  deriving DecidableEq

/-- A scanner: what it is in the middle of, and the tokens so far, last first. -/
structure Scanner where
  scanning : Scanning
  reversed : List Token

namespace Scanner

/-- Before the first character. -/
def start : Scanner := ⟨.betweenTokens, []⟩

/-- Takes a character that does not continue a token. -/
def begin? (tokens : List Token) (character : Char) : Option Scanner :=
  if isBlank character then some ⟨.betweenTokens, tokens⟩
  else
    match punctuation? character with
    | some token => some ⟨.betweenTokens, token :: tokens⟩
    | none =>
      if character = '"' then some ⟨.string [] false, tokens⟩
      else if character = '-' ∨ character.isDigit then some ⟨.numeral [character], tokens⟩
      else if character = 'n' then some ⟨.word ['u', 'l', 'l'] .null, tokens⟩
      else if character = 't' then some ⟨.word ['r', 'u', 'e'] (.bool true), tokens⟩
      else if character = 'f' then some ⟨.word ['a', 'l', 's', 'e'] (.bool false), tokens⟩
      else none

/-- Takes one character. -/
def feed (scanner : Scanner) (character : Char) : Option Scanner :=
  match scanner.scanning with
  | .betweenTokens => begin? scanner.reversed character
  | .word [] _ => none
  | .word (expected :: rest) token =>
    if character = expected then
      if rest.isEmpty then some ⟨.betweenTokens, token :: scanner.reversed⟩
      else some ⟨.word rest token, scanner.reversed⟩
    else none
  | .numeral reversed =>
    if isNumeric character then some ⟨.numeral (character :: reversed), scanner.reversed⟩
    else (numberToken? reversed.reverse).bind fun token =>
      begin? (token :: scanner.reversed) character
  | .string reversed true => some ⟨.string (character :: reversed) false, scanner.reversed⟩
  | .string reversed false =>
    if character = '"' then
      (stringToken? reversed.reverse).map fun token => ⟨.betweenTokens, token :: scanner.reversed⟩
    else some ⟨.string (character :: reversed) (character = '\\'), scanner.reversed⟩

/-- The tokens at the end of the text; nothing inside a word or a string. -/
def finish? (scanner : Scanner) : Option (List Token) :=
  match scanner.scanning with
  | .betweenTokens => some scanner.reversed.reverse
  | .numeral reversed =>
    (numberToken? reversed.reverse).map fun token => (token :: scanner.reversed).reverse
  | _ => none

end Scanner

/-- The tokens of a text. -/
def tokens? (text : List Char) : Option (List Token) :=
  (text.foldlM Scanner.feed .start).bind Scanner.finish?

end Json

end GatewayLink
