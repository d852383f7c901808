/-!
# Points in time

A point in time counts the seconds since the beginning of 1970 in UTC, and nanoseconds within the
second; a leap second counts on beyond the end of its minute's last second.  The written form is
RFC 3339 with as many groups of three decimals as the fraction needs.
-/

namespace GatewayLink

/-- A day of the proleptic Gregorian calendar. -/
structure CivilDate where
  year : Int
  month : Nat
  day : Nat
  deriving DecidableEq, Repr

namespace CivilDate

/-- Whether a year has 366 days. -/
def isLeapYear (year : Int) : Bool :=
  year % 4 == 0 && (year % 100 != 0 || year % 400 == 0)

/-- The number of days of a month. -/
def daysInMonth (year : Int) (month : Nat) : Nat :=
  if month = 2 then (if isLeapYear year then 29 else 28)
  else if month = 4 ∨ month = 6 ∨ month = 9 ∨ month = 11 then 30
  else 31

/-- The years that a date may have. -/
def years : Int × Int := (-262143, 262142)

/-- Whether the date exists. -/
def isValid (date : CivilDate) : Bool :=
  years.1 ≤ date.year && date.year ≤ years.2 && 1 ≤ date.month && date.month ≤ 12 &&
    1 ≤ date.day && date.day ≤ daysInMonth date.year date.month

/-- The number of days from the first day of March of year 0 to the first day of March of a year. -/
def marchDays (year : Int) : Int :=
  365 * year + year / 4 - year / 100 + year / 400

/-- The number of days from the first of March to the first day of a month counted from March. -/
def monthDays (month : Nat) : Nat :=
  (153 * month + 2) / 5

/-- The number of days from the first of March of year 0 to the first of January of 1970. -/
def epochDays : Int := 719468

/-- The number of days since the beginning of 1970. -/
def toDays (date : CivilDate) : Int :=
  let year := if date.month ≤ 2 then date.year - 1 else date.year
  let month := (date.month + 9) % 12
  marchDays year + monthDays month + date.day - 1 - epochDays

/-- The date that is some days after the beginning of 1970. -/
def ofDays (days : Int) : CivilDate :=
  let shifted := days + epochDays
  let era := shifted / 146097
  let dayOfEra := shifted % 146097
  let yearOfEra := (dayOfEra - dayOfEra / 1460 + dayOfEra / 36524 - dayOfEra / 146096) / 365
  let dayOfYear := (dayOfEra - (365 * yearOfEra + yearOfEra / 4 - yearOfEra / 100)).toNat
  let month := (5 * dayOfYear + 2) / 153
  let civilMonth := if month < 10 then month + 3 else month - 9
  { year := yearOfEra + era * 400 + (if civilMonth ≤ 2 then 1 else 0)
    month := civilMonth
    day := dayOfYear - monthDays month + 1 }

end CivilDate

/-- A point in time. -/
structure Timestamp where
  /-- Seconds since the beginning of 1970 in UTC. -/
  seconds : Int
  /-- Nanoseconds within the second; a thousand million and more within a leap second. -/
  nanoseconds : Nat
  deriving DecidableEq, Repr

namespace Timestamp

/-- The number of nanoseconds of a second. -/
def second : Nat := 1000000000

/-- The number of whole milliseconds since the beginning of 1970. -/
def milliseconds (time : Timestamp) : Int :=
  time.seconds * 1000 + time.nanoseconds / 1000000

/-- The point in time some milliseconds after the beginning of 1970. -/
def ofMilliseconds (count : Int) : Timestamp :=
  ⟨count / 1000, (count % 1000).toNat * 1000000⟩

/-- A number in decimal, filled up with zeros. -/
def padded (width value : Nat) : List Char :=
  let digits := Nat.toDigits 10 value
  List.replicate (width - digits.length) '0' ++ digits

/-- A year in four digits, or with a sign where four do not do. -/
def yearText (year : Int) : List Char :=
  if 0 ≤ year ∧ year ≤ 9999 then padded 4 year.toNat
  else (if year < 0 then '-' else '+') :: padded 4 year.natAbs

/-- The decimals of a second: none, three, six or nine. -/
def fractionText (nanoseconds : Nat) : List Char :=
  if nanoseconds = 0 then []
  else if nanoseconds % 1000000 = 0 then '.' :: padded 3 (nanoseconds / 1000000)
  else if nanoseconds % 1000 = 0 then '.' :: padded 6 (nanoseconds / 1000)
  else '.' :: padded 9 nanoseconds

/-- The point in time in UTC. -/
def text (time : Timestamp) : String :=
  let date := CivilDate.ofDays (time.seconds / 86400)
  let clock := (time.seconds % 86400).toNat
  let leap := time.nanoseconds / second
  String.ofList <|
    yearText date.year ++ '-' :: padded 2 date.month ++ '-' :: padded 2 date.day ++
      'T' :: padded 2 (clock / 3600) ++ ':' :: padded 2 (clock / 60 % 60) ++
      ':' :: padded 2 (clock % 60 + leap) ++ fractionText (time.nanoseconds % second) ++ ['Z']

end Timestamp

end GatewayLink
