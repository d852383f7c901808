import GatewayLink.Text.Digits

/-!
# Internet addresses

An address of IPv4 has 32 bits and is written as four decimal numbers.  An address of IPv6 has eight
groups of 16 bits and is written in hexadecimal, with two colons in place of its longest run of
zeros.
-/

namespace GatewayLink

/-- An internet address. -/
inductive InternetAddress where
  | v4 (value : Nat)
  /-- The groups, and the number of the zone that the address belongs to. -/
  | v6 (groups : List Nat) (zone : Nat)
  deriving DecidableEq, Repr

namespace InternetAddress

/-- The least number beyond those of IPv4. -/
def v4Bound : Nat := 4294967296

/-- The address of IPv4 that one to four numbers give; the last fills what the others leave. -/
def ofNumbers? (numbers : List Nat) : Option Nat :=
  match numbers.getLast? with
  | none => none
  | some last =>
    let leading := numbers.dropLast
    let range := Nat.pow 256 (4 - leading.length)
    if 4 < numbers.length || leading.any (255 < ·) || range ≤ last then none
    else some (leading.foldl (fun value part => value * 256 + part) 0 * range + last)

/-- Whether a text is four decimal numbers up to 255, without leading zeros and parted by dots. -/
def isDottedQuad (text : List Char) : Bool :=
  let parts := partsAt '.' text
  parts.length == 4 && parts.all fun part =>
    !part.isEmpty && part.all Char.isDigit && (part.length == 1 || part.head? != some '0') &&
      numberInBase 10 part ≤ 255

/-- Whether a text is a group of one to four hexadecimal digits. -/
def isHexGroup (text : List Char) : Bool :=
  1 ≤ text.length && text.length ≤ 4 && text.all isHexDigit

/-- Whether the groups of an IPv6 address are complete: eight, or fewer with one gap among them.  A
dotted quad at the end counts as two. -/
def areComplete (groups : List (List Char)) : Bool :=
  let gaps := groups.countP List.isEmpty
  let leading := groups.dropLast.filter (!·.isEmpty)
  let last := groups.getLast?.getD []
  let lastCount := if last.isEmpty then 0 else if isDottedQuad last then 2 else 1
  let count := leading.length + lastCount
  leading.all isHexGroup && (last.isEmpty || isHexGroup last || isDottedQuad last) &&
    (if gaps = 0 then count == 8 else gaps == 1 && count ≤ 7)

/-- Whether a text is an IPv6 address. -/
def isV6 (text : List Char) : Bool :=
  let groups := partsAt ':' text
  let startsSingle := groups.head? == some [] && groups[1]? != some []
  let endsSingle := groups.getLast? == some [] && groups.reverse[1]? != some []
  let groups := if groups.head? == some [] then groups.drop 1 else groups
  let groups := if groups.getLast? == some [] && 1 < groups.length then groups.dropLast else groups
  2 ≤ text.length && !startsSingle && !endsSingle && areComplete groups

/-- The groups that a part of an IPv6 address stands for. -/
def groupsOfPart (part : List Char) : List Nat :=
  if isDottedQuad part then
    let value := (ofNumbers? ((partsAt '.' part).map (numberInBase 10))).getD 0
    [value / 65536, value % 65536]
  else [numberInBase 16 part]

/-- The groups of the IPv6 address that a text writes. -/
def v6? (text : List Char) : Option (List Nat) :=
  if isV6 text then
    let parts := partsAt ':' text
    let isWritten (part : List Char) := !part.isEmpty
    let before := (parts.takeWhile isWritten).flatMap groupsOfPart
    if parts.all isWritten then some before
    else
      let after := (parts.reverse.takeWhile isWritten).reverse.flatMap groupsOfPart
      some (before ++ List.replicate (8 - before.length - after.length) 0 ++ after)
  else none

/-- Reads an IPv6 address with the number of its zone after a percent sign, if it has one. -/
def zonedV6? (text : List Char) : Option InternetAddress :=
  match partsAt '%' text with
  | [address] => (v6? address).map (.v6 · 0)
  | [address, zone] =>
    if !zone.isEmpty && zone.all Char.isDigit && numberInBase 10 zone < v4Bound then
      (v6? address).map (.v6 · (numberInBase 10 zone))
    else none
  | _ => none

/-- The written form of an address of IPv4. -/
def quadText (value : Nat) : String :=
  ".".intercalate ([16777216, 65536, 256, 1].map fun weight => toString (value / weight % 256))

/-- The groups in hexadecimal. -/
def hexText (groups : List Nat) : String :=
  ":".intercalate (groups.map fun group => String.ofList (Nat.toDigits 16 group))

/-- The number of zeros at the start. -/
def leadingZeros (groups : List Nat) : Nat :=
  (groups.takeWhile (· == 0)).length

/-- The length of the longest run of zeros. -/
def longestRun : List Nat → Nat
  | [] => 0
  | group :: rest => max (leadingZeros (group :: rest)) (longestRun rest)

/-- The groups before the first run of zeros of a length, and those after it. -/
def aroundRun (length : Nat) : List Nat → List Nat × List Nat
  | [] => ([], [])
  | group :: rest =>
    if leadingZeros (group :: rest) = length then ([], (group :: rest).drop length)
    else ((group :: (aroundRun length rest).1), (aroundRun length rest).2)

/-- The written form of an address of IPv6; one that stands for an address of IPv4 ends like it. -/
def groupsText (groups : List Nat) : String :=
  match groups with
  | [0, 0, 0, 0, 0, 65535, high, low] => "::ffff:" ++ quadText (high * 65536 + low)
  | _ =>
    let length := longestRun groups
    if length ≤ 1 then hexText groups
    else
      let (before, after) := aroundRun length groups
      hexText before ++ "::" ++ hexText after

/-- The written form of an address, without its zone. -/
def text : InternetAddress → String
  | .v4 value => quadText value
  | .v6 groups _ => groupsText groups

end InternetAddress

end GatewayLink
