set_option autoImplicit false

/-! # The Gregorian calendar

Dates of the Gregorian calendar, carried back before its introduction, and their places in the
count of days. A date has a place (`Date.toDays`) and each place a date (`Date.ofDays`);
`Proofs/Time/Calendar` shows that the two fit together.

Days are counted from the start of 1970, and years from year 0, in which leap years are those that
divide by four without the hundreds that do not divide by four hundred.
-/

namespace WebCapture.Time

/-- A year, a month from 1 and a day from 1. -/
structure Date where
  year : Int
  month : Nat
  day : Nat
  deriving DecidableEq, Repr

def isLeapYear (year : Int) : Bool := year % 4 == 0 && (year % 100 != 0 || year % 400 == 0)

def monthLengths (leap : Bool) : List Nat :=
  [31, if leap then 29 else 28, 31, 30, 31, 30, 31, 31, 30, 31, 30, 31]

/-- The length of a month; a number that names no month has no days. -/
def monthLength (leap : Bool) (month : Nat) : Nat :=
  if month = 0 then 0 else (monthLengths leap).getD (month - 1) 0

def Date.isValid (date : Date) : Bool :=
  1 ≤ date.day && date.day ≤ monthLength (isLeapYear date.year) date.month

/-- The days from the start of year 0 to the start of a year. -/
def daysBeforeYear (year : Int) : Int :=
  365 * year + (year + 3) / 4 - (year + 99) / 100 + (year + 399) / 400

def daysBeforeMonth (leap : Bool) (month : Nat) : Nat :=
  ((monthLengths leap).take (month - 1)).foldl (· + ·) 0

/-- The days from the start of year 0 to the start of 1970, where the count begins. -/
def epoch : Int := 719528

def Date.toDays (date : Date) : Int :=
  daysBeforeYear date.year + daysBeforeMonth (isLeapYear date.year) date.month +
    (date.day - 1 : Nat) - epoch

/-- The year in which the `n`-th day from the start of year 0 lies: the year that the mean
length of a year suggests, or one beside it. -/
def yearOf (n : Int) : Int :=
  let guess := n * 400 / 146097
  if n < daysBeforeYear guess then guess - 1
  else if daysBeforeYear (guess + 1) ≤ n then guess + 1
  else guess

/-- The month, counted from `month`, and the day in it, of a day counted from 0 at the start
of the first of the given months. -/
def monthAndDay (month : Nat) : List Nat → Nat → Nat × Nat
  | [], n => (month, n + 1)
  | length :: more, n =>
    if n < length then (month, n + 1) else monthAndDay (month + 1) more (n - length)

def Date.ofDays (days : Int) : Date :=
  let n := days + epoch
  let year := yearOf n
  let (month, day) := monthAndDay 1 (monthLengths (isLeapYear year)) (n - daysBeforeYear year).toNat
  ⟨year, month, day⟩

end WebCapture.Time
