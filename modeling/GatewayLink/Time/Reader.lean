import GatewayLink.Text.Blank
import GatewayLink.Time.Timestamp

/-!
# Reading points in time

The reader takes RFC 3339 with some freedom: white space before each number and each mark, numbers
without their leading zeros, a blank in place of `T`, and offsets with or without a colon.
-/

namespace GatewayLink

namespace Timestamp

/-- A text without leading white space. -/
def skipBlanks (text : List Char) : List Char :=
  text.dropWhile isWhiteSpace

/-- A number of at most some digits and at least one; the rest of the text. -/
def digits? (most : Nat) (text : List Char) : Option (Nat × List Char) :=
  let digits := (text.take most).takeWhile Char.isDigit
  if digits.isEmpty then none
  else some (Nat.ofDigitChars 10 digits 0, text.drop digits.length)

/-- A number after white space. -/
def number? (most : Nat) (text : List Char) : Option (Nat × List Char) :=
  digits? most (skipBlanks text)

/-- A mark after white space. -/
def mark? (mark : Char) (text : List Char) : Option (List Char) :=
  match skipBlanks text with
  | character :: rest => if character = mark then some rest else none
  | [] => none

/-- A year: four digits at most, or any number of them after a sign. -/
def year? (text : List Char) : Option (Int × List Char) :=
  match skipBlanks text with
  | '-' :: rest => (digits? rest.length rest).map fun (year, rest) => (-(year : Int), rest)
  | '+' :: rest => (digits? rest.length rest).map fun (year, rest) => ((year : Int), rest)
  | text => (digits? 4 text).map fun (year, rest) => ((year : Int), rest)

/-- A date. -/
def date? (text : List Char) : Option (CivilDate × List Char) := do
  let (year, text) ← year? text
  let text ← mark? '-' text
  let (month, text) ← number? 2 text
  let text ← mark? '-' text
  let (day, text) ← number? 2 text
  let date : CivilDate := ⟨year, month, day⟩
  if date.isValid then some (date, text) else none

/-- The nanoseconds of a fraction, of which nine digits count. -/
def fraction? : List Char → Option (Nat × List Char)
  | '.' :: text =>
    let digits := (text.take 9).takeWhile Char.isDigit
    if digits.isEmpty then none
    else some (Nat.ofDigitChars 10 digits 0 * Nat.pow 10 (9 - digits.length),
      text.dropWhile Char.isDigit)
  | text => some (0, text)

/-- The seconds since midnight and the nanoseconds; second 60 is a leap second. -/
def clock? (text : List Char) : Option ((Nat × Nat) × List Char) := do
  let (hour, text) ← number? 2 text
  let text ← mark? ':' text
  let (minute, text) ← number? 2 text
  let text ← mark? ':' text
  let (whole, text) ← number? 2 text
  let (nanoseconds, text) ← fraction? text
  if hour < 24 ∧ minute < 60 ∧ whole ≤ 60 then
    let leap := whole / 60
    some ((hour * 3600 + minute * 60 + (whole - leap), nanoseconds + leap * second), text)
  else none

/-- Two digits. -/
def pair? : List Char → Option (Nat × List Char)
  | first :: other :: rest =>
    if first.isDigit && other.isDigit then some (Nat.ofDigitChars 10 [first, other] 0, rest)
    else none
  | _ => none

/-- The seconds of an offset of hours and minutes. -/
def offsetSeconds? (text : List Char) : Option (Nat × List Char) := do
  let (hours, text) ← pair? text
  let (minutes, text) ←
    pair? (text.dropWhile fun character => character == ':' || isWhiteSpace character)
  if minutes < 60 ∧ hours < 24 then some (hours * 3600 + minutes * 60, text) else none

/-- An offset from UTC in seconds: `UTC`, `Z`, or a sign with hours and minutes. -/
def offset? (text : List Char) : Option (Int × List Char) :=
  if (text.take 3).map Char.toUpper == ['U', 'T', 'C'] then some (0, text.drop 3)
  else
    match text with
    | 'Z' :: rest | 'z' :: rest => some (0, rest)
    | '+' :: rest =>
      (offsetSeconds? rest).map fun (seconds, rest) => ((seconds : Int), rest)
    | '-' :: rest | '−' :: rest =>
      (offsetSeconds? rest).map fun (seconds, rest) => (-(seconds : Int), rest)
    | _ => none

/-- Reads a text as a point in time. -/
def ofText? (text : String) : Option Timestamp := do
  let (date, text) ← date? text.toList
  let text ←
    match text with
    | 'T' :: rest | 't' :: rest | ' ' :: rest => some rest
    | _ => none
  let ((clock, nanoseconds), text) ← clock? text
  let (offset, text) ← offset? (skipBlanks text)
  let seconds := date.toDays * 86400 + clock - offset
  if (skipBlanks text).isEmpty && (CivilDate.ofDays (seconds / 86400)).isValid then
    some ⟨seconds, nanoseconds⟩
  else none

end Timestamp

end GatewayLink
