import GatewayLink.Url.Host

/-!
# Addresses

The reader of addresses follows the living standard for URLs: blanks and control characters at the
ends and line breaks anywhere are dropped, a scheme is required, and where the scheme or two
slashes call for an authority, its host and its service number must be sound.  What follows the
authority is never refused.
-/

namespace GatewayLink

/-- A sound address: its scheme and, where it has one, its host with a service number. -/
structure Url where
  scheme : String
  host : Option Host
  serviceNumber : Option Nat
  deriving DecidableEq, Repr

namespace Url

/-- How a scheme is written after its colon. -/
inductive SchemeKind where
  | file
  /-- A scheme of the web: an authority must follow, after any number of slashes. -/
  | special
  | other
  deriving DecidableEq, Repr

/-- The kind of a scheme. -/
def kindOf (scheme : String) : SchemeKind :=
  if scheme = "file" then .file
  else if ["http", "https", "ws", "wss", "ftp"].contains scheme then .special
  else .other

/-- Whether a character may stand in a scheme after its first letter. -/
def isSchemeCharacter (character : Char) : Bool :=
  character.isAlphanum || character == '+' || character == '-' || character == '.'

/-- The scheme of an address and what follows its colon. -/
def scheme? (text : List Char) : Option (String × List Char) :=
  match text with
  | [] => none
  | first :: _ =>
    if first.isAlpha then
      match text.dropWhile isSchemeCharacter with
      | ':' :: rest =>
        some (String.ofList ((text.takeWhile isSchemeCharacter).map Char.toLower), rest)
      | _ => none
    else none

/-- Whether a character is a slash of either kind. -/
def isSlash (character : Char) : Bool :=
  character == '/' || character == '\\'

/-- Whether a character ends an authority. -/
def endsAuthority (kind : SchemeKind) (character : Char) : Bool :=
  character == '/' || character == '?' || character == '#' ||
    (character == '\\' && kind != .other)

/-- The user information of an authority, if there is an `@`, and what follows the last one. -/
def splitUser (kind : SchemeKind) (text : List Char) : Option (List Char) × List Char :=
  let authority := text.takeWhile fun character => !endsAuthority kind character
  let rest := text.dropWhile fun character => !endsAuthority kind character
  if authority.contains '@' then
    let host := (authority.reverse.takeWhile (· != '@')).reverse
    (some (authority.take (authority.length - host.length - 1)), host ++ rest)
  else (none, text)

/-- The text of a host: it ends at a colon outside brackets or with the authority. -/
def splitHost (kind : SchemeKind) : (insideBrackets : Bool) → List Char → List Char × List Char
  | _, [] => ([], [])
  | insideBrackets, character :: rest =>
    if (character == ':' && !insideBrackets) || endsAuthority kind character then
      ([], character :: rest)
    else
      let inside :=
        if character = '[' then true else if character = ']' then false else insideBrackets
      let (host, rest) := splitHost kind inside rest
      (character :: host, rest)

/-- Reads a service number: digits up to the end of the authority. -/
def serviceNumber? (text : List Char) : Except UrlFault (Option Nat) :=
  let digits := text.takeWhile Char.isDigit
  let value := Nat.ofDigitChars 10 digits 0
  let ended :=
    match text.dropWhile Char.isDigit with
    | [] => true
    | character :: _ => isSlash character || character == '?' || character == '#'
  if 65535 < value || !ended then .error .serviceNumber
  else .ok (if digits.isEmpty then none else some value)

/-- Reads an authority. -/
def authority (scheme : String) (kind : SchemeKind) (text : List Char) : Except UrlFault Url := do
  let (user, rest) := splitUser kind text
  if user == some [] && (rest.head?.map (endsAuthority kind)) == some true then
    throw .emptyHost
  let (hostText, rest) := splitHost kind false rest
  if kind == .special && hostText.isEmpty then throw .emptyHost
  let host ← if kind == .other then Host.parseOpaque hostText else Host.parse hostText
  let isEmpty := host == .opaqueName []
  if isEmpty && rest.head? == some ':' then throw .emptyHost
  let number ← if rest.head? == some ':' then serviceNumber? (rest.drop 1) else pure none
  let hasUser := (user.map fun user => !user.isEmpty && user != [':']) == some true
  if isEmpty && hasUser then throw .emptyHost
  return ⟨scheme, if isEmpty then none else some host, number⟩

/-- Whether a text is a drive letter. -/
def isDriveLetter : List Char → Bool
  | [letter, mark] => letter.isAlpha && (mark == ':' || mark == '|')
  | _ => false

/-- Reads what follows the scheme `file`. -/
def file (scheme : String) : List Char → Except UrlFault Url
  | first :: second :: rest =>
    if isSlash first && isSlash second then do
      let host := rest.takeWhile fun character =>
        !(isSlash character || character == '?' || character == '#')
      if host.isEmpty || isDriveLetter host then return ⟨scheme, none, none⟩
      else
        let host ← Host.parse host
        return ⟨scheme, some host, none⟩
    else .ok ⟨scheme, none, none⟩
  | _ => .ok ⟨scheme, none, none⟩

/-- Whether a character is dropped at the ends of an address. -/
def isMargin (character : Char) : Bool :=
  character ≤ ' '

/-- Whether a character is dropped anywhere in an address. -/
def isLineBreak (character : Char) : Bool :=
  character == '\t' || character == '\n' || character == '\r'

/-- The characters of an address that count. -/
def significant (text : String) : List Char :=
  ((text.toList.dropWhile isMargin).reverse.dropWhile isMargin).reverse.filter (!isLineBreak ·)

/-- Reads an address. -/
def parse (text : String) : Except UrlFault Url :=
  match scheme? (significant text) with
  | none => .error .relative
  | some (scheme, rest) =>
    match kindOf scheme with
    | .file => file scheme rest
    | .special => authority scheme .special (rest.dropWhile isSlash)
    | .other =>
      match rest with
      | '/' :: '/' :: rest => authority scheme .other rest
      | _ => .ok ⟨scheme, none, none⟩

end Url

end GatewayLink
