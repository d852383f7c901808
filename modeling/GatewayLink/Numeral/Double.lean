/-!
# Finite binary64 numbers

A number is kept exactly, as a sign and a magnitude `significand * 2 ^ exponent`.  Each operation
computes with whole numbers and rounds once, to the nearest number and to the even one of two that
are equally near.
-/

namespace GatewayLink

namespace Double

/-- The least significand of 53 bits. -/
def leastFull : Nat := 4503599627370496

/-- The least number that does not fit in 53 bits. -/
def significandBound : Nat := 9007199254740992

/-- The significands and exponents of binary64: 53 bits, all of them used above the least
exponent. -/
def Fits (significand : Nat) (exponent : Int) : Prop :=
  significand < significandBound ∧ -1074 ≤ exponent ∧ exponent ≤ 971 ∧
    (leastFull ≤ significand ∨ exponent = -1074)

instance (significand : Nat) (exponent : Int) : Decidable (Fits significand exponent) :=
  inferInstanceAs (Decidable (_ ∧ _))

end Double

/-- A finite binary64 number; zero keeps its sign. -/
structure Double where
  negative : Bool
  significand : Nat
  exponent : Int
  fits : Double.Fits significand exponent
  deriving DecidableEq

namespace Double

/-- Zero, with a sign. -/
def zero (negative : Bool) : Double :=
  ⟨negative, 0, -1074, by decide⟩

/-- Whether the number is zero of either sign. -/
def isZero (number : Double) : Bool :=
  number.significand = 0

/-- The same magnitude with the given sign. -/
def withSign (number : Double) (negative : Bool) : Double :=
  { number with negative }

/-- The quotient of two whole numbers, rounded to nearest and to even in a tie. -/
def roundedQuotient (numerator denominator : Nat) : Nat :=
  let quotient := numerator / denominator
  let remainder := numerator % denominator
  if 2 * remainder < denominator then quotient
  else if denominator < 2 * remainder then quotient + 1
  else quotient + quotient % 2

/-- `numerator / denominator / 2 ^ exponent` as a quotient of whole numbers. -/
def shifted (numerator denominator : Nat) (exponent : Int) : Nat × Nat :=
  (numerator * Nat.pow 2 (-exponent).toNat, denominator * Nat.pow 2 exponent.toNat)

/-- The exponent at which the quotient has a 53-bit significand, or the least exponent. -/
def exponentFor (numerator denominator : Nat) : Int :=
  let upper : Int := (numerator.log2 : Int) - denominator.log2 - 52
  let scaled := shifted numerator denominator upper
  max (if leastFull ≤ scaled.1 / scaled.2 then upper else upper - 1) (-1074)

/-- The number nearest to a quotient, or nothing where that is beyond the largest number. -/
def nearest (negative : Bool) (numerator denominator : Nat) : Option Double :=
  if numerator = 0 then some (zero negative)
  else
    let exponent := exponentFor numerator denominator
    let scaled := shifted numerator denominator exponent
    let rounded := roundedQuotient scaled.1 scaled.2
    let carried := rounded = significandBound
    let significand := if carried then leastFull else rounded
    let exponent := if carried then exponent + 1 else exponent
    if fits : Fits significand exponent then some ⟨negative, significand, exponent, fits⟩ else none

/-- The magnitude as a quotient of whole numbers. -/
def magnitude (number : Double) : Nat × Nat :=
  (number.significand * Nat.pow 2 number.exponent.toNat, Nat.pow 2 (-number.exponent).toNat)

/-- The product, rounded once; nothing on overflow. -/
def mul? (left right : Double) : Option Double :=
  let (leftTop, leftBottom) := left.magnitude
  let (rightTop, rightBottom) := right.magnitude
  nearest (left.negative != right.negative) (leftTop * rightTop) (leftBottom * rightBottom)

/-- The quotient, rounded once; nothing on overflow or where the divisor is zero. -/
def div? (left right : Double) : Option Double :=
  let (leftTop, leftBottom) := left.magnitude
  let (rightTop, rightBottom) := right.magnitude
  if right.isZero then none
  else nearest (left.negative != right.negative) (leftTop * rightBottom) (leftBottom * rightTop)

/-- The number nearest to a power of ten. -/
def powerOfTen? (power : Nat) : Option Double :=
  nearest false (Nat.pow 10 power) 1

end Double

end GatewayLink
