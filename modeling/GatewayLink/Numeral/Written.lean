import GatewayLink.Numeral.Double

/-!
# Written decimal numerals

A numeral is an optional minus sign, whole digits without a needless leading zero, and optionally a
fraction and an exponent.  Its binary64 value is read from the leading digits that fit in 64 bits,
scaled once by a power of ten.
-/

namespace GatewayLink

/-- A decimal numeral as it is written. -/
structure Numeral where
  negative : Bool
  /-- The digits before the point. -/
  whole : List Char
  /-- The digits after the point, where there is one. -/
  fraction : Option (List Char)
  /-- Whether the exponent is negative, and its digits. -/
  exponent : Option (Bool × List Char)
  deriving DecidableEq, Repr

namespace Numeral

/-- The digits after an exponent mark. -/
def exponentOf? : List Char → Option (Bool × List Char)
  | '-' :: digits =>
    if digits.isEmpty || !digits.all Char.isDigit then none else some (true, digits)
  | '+' :: digits =>
    if digits.isEmpty || !digits.all Char.isDigit then none else some (false, digits)
  | digits => if digits.isEmpty || !digits.all Char.isDigit then none else some (false, digits)

/-- The numeral with an exponent part read from what follows the digits. -/
def withExponent? (numeral : Numeral) : List Char → Option Numeral
  | [] => some numeral
  | mark :: rest =>
    if mark = 'e' ∨ mark = 'E' then
      (exponentOf? rest).map fun exponent => { numeral with exponent := some exponent }
    else none

/-- The numeral with a fraction and an exponent part read from what follows the whole digits. -/
def withFraction? (numeral : Numeral) : List Char → Option Numeral
  | '.' :: rest =>
    let digits := rest.takeWhile Char.isDigit
    if digits.isEmpty then none
    else { numeral with fraction := some digits }.withExponent? (rest.dropWhile Char.isDigit)
  | rest => numeral.withExponent? rest

/-- An unsigned numeral: `0`, or digits that do not begin with `0`. -/
def unsigned? (negative : Bool) (text : List Char) : Option Numeral :=
  let whole := text.takeWhile Char.isDigit
  let numeral : Numeral := ⟨negative, whole, none, none⟩
  if whole.isEmpty || (whole.head? == some '0' && whole.length != 1) then none
  else numeral.withFraction? (text.dropWhile Char.isDigit)

/-- Reads a whole text as one numeral. -/
def ofText? : List Char → Option Numeral
  | '-' :: rest => unsigned? true rest
  | text => unsigned? false text

/-- The bound on the digits that are kept: they form a 64-bit word. -/
def wordBound : Nat := 18446744073709551616

/-- Appends leading digits to a significand while it fits in a word; the rest of the digits. -/
def keepDigits (significand : Nat) : List Char → Nat × List Char
  | [] => (significand, [])
  | digit :: rest =>
    let longer := Nat.ofDigitChars 10 [digit] significand
    if longer < wordBound then keepDigits longer rest else (significand, digit :: rest)

/-- The significand that is kept and the power of ten it is scaled by. -/
def kept (numeral : Numeral) : Nat × Int :=
  let (significand, dropped) := keepDigits 0 numeral.whole
  let fraction := numeral.fraction.getD []
  let (significand, unread) := keepDigits significand fraction
  let written : Int :=
    match numeral.exponent with
    | none => 0
    | some (true, digits) => -(Nat.ofDigitChars 10 digits 0 : Int)
    | some (false, digits) => (Nat.ofDigitChars 10 digits 0 : Int)
  (significand, (dropped.length : Int) - (fraction.length - unread.length : Nat) + written)

/-- The largest power of ten by which a number is scaled at once. -/
def largestStep : Nat := 308

/-- Divides by one power of ten. -/
def divideBy? (number : Double) (power : Nat) : Option Double :=
  (Double.powerOfTen? power).bind number.div?

/-- Divides by a power of ten, by the largest step while more than that is left.  Three of those
leave zero of any number below `2 ^ 64`. -/
def scaleDown (number : Double) (power : Nat) : Nat → Option Double
  | 0 => some (Double.zero false)
  | steps + 1 =>
    if power ≤ largestStep then divideBy? number power
    else if number.isZero then some number
    else (divideBy? number largestStep).bind fun smaller =>
      scaleDown smaller (power - largestStep) steps

/-- Multiplies by a power of ten; nothing beyond the largest number. -/
def scaleUp (number : Double) (power : Nat) : Option Double :=
  if power ≤ largestStep then (Double.powerOfTen? power).bind number.mul?
  else if number.isZero then some number
  else none

/-- The binary64 value, or nothing where it lies beyond the largest number. -/
def toDouble? (numeral : Numeral) : Option Double :=
  let (significand, power) := numeral.kept
  let scaled := (Double.nearest false significand 1).bind fun number =>
    if power < 0 then scaleDown number power.natAbs 4 else scaleUp number power.toNat
  scaled.map (·.withSign numeral.negative)

/-- Whether the numeral has neither a fraction nor an exponent. -/
def isWhole (numeral : Numeral) : Bool :=
  numeral.fraction.isNone && numeral.exponent.isNone

/-- The value of the whole digits. -/
def wholeValue (numeral : Numeral) : Nat :=
  Nat.ofDigitChars 10 numeral.whole 0

end Numeral

end GatewayLink
