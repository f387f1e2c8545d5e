import WebCapture.Time.Calendar

set_option autoImplicit false

/-! # Points in time

An `Instant` is a point in time as clocks show it: a day, a second of that day and a fraction. A
leap second is counted as a part of the second before it: its nanoseconds go on from one thousand
million. Two points in time are therefore told apart even within a leap second, and the text shows
it as second 60.
-/

namespace WebCapture.Time

/-- A point in time: the day in the count of days, the second of the day, and the nanoseconds,
of which a leap second has a thousand million more. -/
structure Instant where
  day : Int
  second : Nat
  nanos : Nat
  deriving DecidableEq, Repr

def nanosPerSecond : Nat := 1000000000

/-- The point in time at a time of day; second 60 is a leap second. -/
def Instant.ofClock (date : Date) (hour minute second nanos : Nat) : Instant :=
  let (second, nanos) := if second = 60 then (59, nanos + nanosPerSecond) else (second, nanos)
  ⟨date.toDays, hour * 3600 + minute * 60 + second, nanos⟩

def Instant.millis (t : Instant) : Int :=
  (t.day * 86400 + t.second) * 1000 + (t.nanos / 1000000 : Nat)

/-- The point in time that a clock shows which is `seconds` ahead. -/
def Instant.behind (t : Instant) (seconds : Int) : Instant :=
  let total := t.day * 86400 + t.second - seconds
  ⟨total / 86400, (total % 86400).toNat, t.nanos⟩

def padded (width n : Nat) : String :=
  let digits := Nat.toDigits 10 n
  String.ofList (List.replicate (width - digits.length) '0' ++ digits)

/-- A year with four digits; a year that needs more, or lies before year 0, has a sign. -/
def yearText (year : Int) : String :=
  if year < 0 then "-" ++ padded 4 year.natAbs
  else if 9999 < year then "+" ++ padded 4 year.natAbs
  else padded 4 year.natAbs

/-- The point in time with milliseconds, in the form `2024-01-01T12:00:00.000Z`. -/
def Instant.text (t : Instant) : String :=
  let date := Date.ofDays t.day
  let leap := t.nanos / nanosPerSecond
  yearText date.year ++ "-" ++ padded 2 date.month ++ "-" ++ padded 2 date.day ++ "T" ++
    padded 2 (t.second / 3600) ++ ":" ++ padded 2 (t.second / 60 % 60) ++ ":" ++
    padded 2 (t.second % 60 + leap) ++ "." ++
    padded 3 (t.nanos % nanosPerSecond / 1000000) ++ "Z"

end WebCapture.Time
