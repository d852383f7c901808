import GatewayLink.Internet.Address
import GatewayLink.Url.DomainName

/-!
# Hosts

A host in an address is an IPv4 address, an IPv6 address in brackets or a domain name.  A domain
name whose ASCII form ends in a number must be an IPv4 address.
-/

namespace GatewayLink

/-- Why a text is no address. -/
inductive UrlFault where
  | emptyHost
  | domainName
  | serviceNumber
  | ipv4
  | ipv6
  | domainCharacter
  /-- There is no scheme, so the address would be relative. -/
  | relative
  deriving DecidableEq, Repr

/-- The wording of a fault in an address. -/
def UrlFault.message : UrlFault → String
  | .emptyHost => "empty host"
  | .domainName => "invalid international domain name"
  | .serviceNumber => "invalid port number"
  | .ipv4 => "invalid IPv4 address"
  | .ipv6 => "invalid IPv6 address"
  | .domainCharacter => "invalid domain character"
  | .relative => "relative URL without a base"

/-- A host. -/
inductive Host where
  | domain (name : List Char)
  | ipv4 (address : Nat)
  | ipv6 (text : List Char)
  /-- The host of a scheme that gives it no structure. -/
  | opaqueName (text : List Char)
  deriving DecidableEq, Repr

namespace Host

/-- A part of an IPv4 address: decimal, octal after `0`, or hexadecimal after `0x`. -/
def ipv4Number? : List Char → Option Nat
  | [] => none
  | '0' :: 'x' :: digits | '0' :: 'X' :: digits =>
    if digits.all isHexDigit then some (numberInBase 16 digits) else none
  | '0' :: digit :: digits =>
    if (digit :: digits).all fun digit => '0' ≤ digit && digit ≤ '7' then
      some (numberInBase 8 (digit :: digits))
    else none
  | digits => if digits.all Char.isDigit then some (numberInBase 10 digits) else none

/-- The parts of a dotted name, without an empty last one. -/
def dottedParts (name : List Char) : List (List Char) :=
  let parts := partsAt '.' name
  if parts.getLast? = some [] then parts.dropLast else parts

/-- Whether the last part of a name is a number, so that the name must be an IPv4 address. -/
def endsInNumber (name : List Char) : Bool :=
  match (dottedParts name).getLast? with
  | none => false
  | some last => (!last.isEmpty && last.all Char.isDigit) || (ipv4Number? last).isSome

/-- Reads an IPv4 address of one to four parts, of which the last fills what the others leave. -/
def ipv4? (name : List Char) : Except UrlFault Nat :=
  match ((dottedParts name).mapM ipv4Number?).bind InternetAddress.ofNumbers? with
  | none => .error .ipv4
  | some value => .ok value

/-- Reads the text between brackets. -/
def bracketed? : List Char → Except UrlFault Host
  | [] => .error .ipv6
  | first :: rest =>
    if first = '[' ∧ rest.getLast? = some ']' ∧ InternetAddress.isV6 rest.dropLast then
      .ok (.ipv6 rest.dropLast)
    else .error .ipv6

/-- The byte of a percent sign and two hexadecimal digits. -/
def percentByte? : List UInt8 → Option (UInt8 × List UInt8)
  | percent :: high :: low :: rest =>
    let high := Char.ofNat high.toNat
    let low := Char.ofNat low.toNat
    if percent == '%'.toUInt8 && isHexDigit high && isHexDigit low then
      some (UInt8.ofNat (hexDigitValue high * 16 + hexDigitValue low), rest)
    else none
  | _ => none

/-- The bytes of a text with its percent signs resolved. -/
def percentDecoded (bytes : List UInt8) : Nat → List UInt8
  | 0 => bytes
  | steps + 1 =>
    match percentByte? bytes with
    | some (byte, rest) => byte :: percentDecoded rest steps
    | none =>
      match bytes with
      | [] => []
      | byte :: rest => byte :: percentDecoded rest steps

/-- Reads the host of a scheme whose hosts are addresses and domain names. -/
def parse (text : List Char) : Except UrlFault Host :=
  if text.head? = some '[' then bracketed? text
  else
    let bytes := (String.ofList text).toUTF8.toList
    let decoded := percentDecoded bytes bytes.length
    match String.fromUTF8? ⟨decoded.toArray⟩ with
    | none => .error .domainName
    | some name =>
      match DomainName.toAscii? name.toList with
      | none => .error .domainName
      | some ascii =>
        if ascii.isEmpty then .error .emptyHost
        else if endsInNumber ascii then (ipv4? ascii).map .ipv4
        else .ok (.domain ascii)

/-- Whether a character may not stand in a host without structure. -/
def isForbiddenInOpaque (character : Char) : Bool :=
  ['\x00', '\t', '\n', '\r', ' ', '#', '/', ':', '<', '>', '?', '@', '[', '\\', ']', '^',
    '|'].contains character

/-- Reads the host of any other scheme. -/
def parseOpaque (text : List Char) : Except UrlFault Host :=
  if text.head? = some '[' then bracketed? text
  else if text.any isForbiddenInOpaque then .error .domainCharacter
  else .ok (.opaqueName text)

end Host

end GatewayLink
