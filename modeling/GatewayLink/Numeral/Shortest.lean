import GatewayLink.Numeral.Double

/-!
# Shortest decimal digits

Among the decimal numerals that round to a binary64 number, the written one has the fewest digits,
and of those it is the nearest.  `Double.shortest` finds it by testing, for one digit and then for
more, the two neighbours of the number on that decimal grid.
-/

namespace GatewayLink

/-- A decimal magnitude `digits * 10 ^ exponent`. -/
structure Decimal where
  digits : Nat
  exponent : Int
  deriving DecidableEq, Repr

namespace Double

/-- The interval of magnitudes that round to a number, in quarters of its last place. -/
structure Rounding where
  /-- The lower end. -/
  low : Nat
  /-- The number itself. -/
  centre : Nat
  /-- The upper end. -/
  high : Nat
  /-- Whether both ends round to the number. -/
  closed : Bool

/-- The rounding interval; below a power of two the spacing halves. -/
def rounding (number : Double) : Rounding where
  low := 4 * number.significand -
    (if number.significand = leastFull ∧ -1074 < number.exponent then 1 else 2)
  centre := 4 * number.significand
  high := 4 * number.significand + 2
  closed := number.significand % 2 = 0

/-- The whole-number quotient of `units` quarters of the last place by `10 ^ power`. -/
def inTens (number : Double) (units : Nat) (power : Int) : Nat × Nat :=
  let exponent := number.exponent - 2
  (units * Nat.pow 2 exponent.toNat * Nat.pow 10 (-power).toNat,
    Nat.pow 2 (-exponent).toNat * Nat.pow 10 power.toNat)

/-- Whether `candidate * 10 ^ power` rounds to the number. -/
def accepts (number : Double) (candidate : Nat) (power : Int) : Bool :=
  let interval := number.rounding
  let low := number.inTens interval.low power
  let high := number.inTens interval.high power
  if interval.closed then
    low.1 ≤ candidate * low.2 && candidate * high.2 ≤ high.1
  else
    low.1 < candidate * low.2 && candidate * high.2 < high.1

/-- The accepted neighbour on the grid of multiples of `10 ^ power`; the nearer one of two, and
the even one of two that are equally near. -/
def onGrid? (number : Double) (power : Int) : Option Decimal :=
  let (top, bottom) := number.inTens number.rounding.centre power
  let below := top / bottom
  let above := below + 1
  let remainder := top % bottom
  let prefersBelow :=
    2 * remainder < bottom || (2 * remainder == bottom && below % 2 == 0)
  match accepts number below power && below != 0, accepts number above power with
  | true, true => some ⟨if prefersBelow then below else above, power⟩
  | true, false => some ⟨below, power⟩
  | false, true => some ⟨above, power⟩
  | false, false => none

/-- The position of the leading decimal digit of a nonzero number. -/
def leadingPower (number : Double) : Int :=
  let centre := number.rounding.centre
  let binary : Int := (centre.log2 : Int) + number.exponent - 2
  let estimate := binary * 30103 / 100000
  let atLeast (power : Int) : Bool :=
    let (top, bottom) := number.inTens centre power
    bottom ≤ top
  if atLeast (estimate + 1) then estimate + 1
  else if atLeast estimate then estimate
  else estimate - 1

/-- The first grid with an accepted neighbour, from coarse to fine. -/
def firstOnGrid? (number : Double) (power : Int) : Nat → Option Decimal
  | 0 => none
  | grids + 1 =>
    match number.onGrid? power with
    | some decimal => some decimal
    | none => firstOnGrid? number (power - 1) grids

/-- The shortest decimal magnitude that rounds to the number; seventeen digits always suffice. -/
def shortest (number : Double) : Decimal :=
  if number.isZero then ⟨0, 0⟩
  else (number.firstOnGrid? number.leadingPower 18).getD ⟨0, 0⟩

/-- Plain notation with at least one digit on either side of the point. -/
def plainNotation (digits : List Char) (point : Int) : List Char :=
  if point ≤ 0 then
    '0' :: '.' :: List.replicate (-point).toNat '0' ++ digits
  else
    let whole := digits.take point.toNat
    let fraction := digits.drop point.toNat
    whole ++ List.replicate (point.toNat - whole.length) '0' ++
      '.' :: (if fraction.isEmpty then ['0'] else fraction)

/-- Scientific notation: one digit before the point, and a sign on every exponent. -/
def scientificNotation (digits : List Char) (exponent : Int) : List Char :=
  let fraction := digits.drop 1
  digits.take 1 ++ (if fraction.isEmpty then [] else '.' :: fraction) ++
    'e' :: (if exponent < 0 then '-' else '+') :: Nat.toDigits 10 exponent.natAbs

/-- Exponents from -5 to 15 are written in plain notation, all others in scientific notation. -/
def plainExponents : Int × Int := (-5, 15)

/-- The written form of a number. -/
def text (number : Double) : List Char :=
  let sign := if number.negative then ['-'] else []
  if number.isZero then sign ++ ['0', '.', '0']
  else
    let decimal := number.shortest
    let all := Nat.toDigits 10 decimal.digits
    let digits := (all.reverse.dropWhile (· == '0')).reverse
    let leading := decimal.exponent + all.length - 1
    sign ++
      if plainExponents.1 ≤ leading ∧ leading ≤ plainExponents.2 then
        plainNotation digits (leading + 1)
      else
        scientificNotation digits leading

end Double

end GatewayLink
