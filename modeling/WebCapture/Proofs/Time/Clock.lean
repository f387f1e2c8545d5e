import WebCapture.Proofs.Time.Calendar
import WebCapture.Time.Instant

set_option autoImplicit false

/-! # What clocks show

A clock shows a date and a time of day, and second 60 in a leap second. What it shows can be told
from the point in time (`Clock.clock_instant`), and points in time follow each other as the
numbers do that their digits spell (`Clock.before_iff`).

Days are counted, and a leap second does not add to them: it belongs to the second before it, with
a fraction that goes on beyond one second. So the order of points in time is by days, seconds and
fractions, one after the other, and within a day this is the order of what clocks show.
-/

namespace WebCapture.Time

structure Clock where
  date : Date
  hour : Nat
  minute : Nat
  second : Nat
  deriving DecidableEq, Repr

namespace Clock

structure IsShown (clock : Clock) : Prop where
  date : clock.date.isValid = true
  old : 0 ≤ clock.date.year
  new : clock.date.year ≤ 9999
  hour : clock.hour ≤ 23
  minute : clock.minute ≤ 59
  second : clock.second ≤ 60

/-- The point in time at which a clock has shown this for some milliseconds. -/
def instant (clock : Clock) (millis : Nat) : Instant :=
  .ofClock clock.date clock.hour clock.minute clock.second (millis * 1000000)

/-- What a clock shows in fourteen digits, `YYYYMMDDhhmmss`. -/
def digits (clock : Clock) : String :=
  padded 4 clock.date.year.natAbs ++ padded 2 clock.date.month ++ padded 2 clock.date.day ++
    padded 2 clock.hour ++ padded 2 clock.minute ++ padded 2 clock.second

end Clock

def Instant.clock (t : Instant) : Clock :=
  ⟨Date.ofDays t.day, t.second / 3600, t.second / 60 % 60, t.second % 60 + t.nanos / nanosPerSecond⟩

/-- For how many milliseconds a clock has shown what it shows at a point in time. -/
def Instant.fraction (t : Instant) : Nat := t.nanos % nanosPerSecond / 1000000

namespace Clock

variable {clock clock' : Clock} {millis millis' : Nat}

/-- **What a clock shows is found again from the point in time.** -/
theorem clock_instant (shown : clock.IsShown) (small : millis < 1000) :
    (clock.instant millis).clock = clock ∧ (clock.instant millis).fraction = millis := by
  obtain ⟨date, hour, minute, second⟩ := clock
  have minutes : minute ≤ 59 := shown.minute
  have seconds : second ≤ 60 := shown.second
  have same : Date.ofDays date.toDays = date := Date.ofDays_toDays shown.date
  unfold Instant.clock Instant.fraction instant Instant.ofClock nanosPerSecond
  by_cases leap : second = 60
  · -- A leap second is kept as second 59 with a second of nanoseconds more.
    simp only [if_pos leap, same, Clock.mk.injEq, true_and]
    omega
  · simp only [if_neg leap, same, Clock.mk.injEq, true_and]
    omega

end Clock

/-! ## The order of dates

A date is compared by its year, its month and its day, whereas a day is known by its number. That
the two agree rests on the lengths of months and years: what comes earlier has ended before the
other begins.
-/

def Date.number (date : Date) : Nat := (date.year.natAbs * 100 + date.month) * 100 + date.day

theorem daysBeforeYear_le {year year' : Int} (h : year < year') :
    daysBeforeYear (year + 1) ≤ daysBeforeYear year' := by
  unfold daysBeforeYear
  omega

/-- A month ends before a later one begins. -/
theorem daysBeforeMonth_le (leap : Bool) {month month' : Nat} (first : 1 ≤ month)
    (h : month < month') (last : month' ≤ 12) :
    daysBeforeMonth leap month + monthLength leap month ≤ daysBeforeMonth leap month' := by
  have all : ∀ month month' : Fin 13, 1 ≤ month.val → month.val < month'.val →
      daysBeforeMonth leap month.val + monthLength leap month.val
        ≤ daysBeforeMonth leap month'.val := by
    cases leap <;> decide
  exact all ⟨month, by omega⟩ ⟨month', by omega⟩ first h

variable {date date' : Date}

theorem Date.toDays_lt (valid : date.isValid = true) (valid' : date'.isValid = true)
    (old : 0 ≤ date.year) (old' : 0 ≤ date'.year) (h : date.number < date'.number) :
    date.toDays < date'.toDays := by
  obtain ⟨month₁, month₂, day₁, day₂⟩ := Date.month_day_bounds valid
  obtain ⟨month₁', month₂', day₁', day₂'⟩ := Date.month_day_bounds valid'
  obtain ⟨year, month, day⟩ := date
  obtain ⟨year', month', day'⟩ := date'
  simp only [Date.isValid, Bool.and_eq_true, decide_eq_true_eq] at valid valid'
  simp only [Date.number, Date.toDays] at *
  have inMonth : day - 1 < monthLength (isLeapYear year) month := by omega
  obtain ⟨-, inYear⟩ := monthLength_bounds inMonth
  have next := daysBeforeYear_succ year
  obtain earlier | rfl : year < year' ∨ year = year' := by omega
  · have later := daysBeforeYear_le earlier
    omega
  obtain earlier | rfl : month < month' ∨ month = month' := by omega
  · have later := daysBeforeMonth_le (isLeapYear year) month₁ earlier month₂'
    omega
  · omega

theorem Date.number_inj (valid : date.isValid = true) (valid' : date'.isValid = true)
    (old : 0 ≤ date.year) (old' : 0 ≤ date'.year) (h : date.number = date'.number) :
    date = date' := by
  obtain ⟨month₁, month₂, day₁, day₂⟩ := Date.month_day_bounds valid
  obtain ⟨month₁', month₂', day₁', day₂'⟩ := Date.month_day_bounds valid'
  obtain ⟨year, month, day⟩ := date
  obtain ⟨year', month', day'⟩ := date'
  simp only [Date.number, Date.mk.injEq] at *
  omega

/-- **Days follow each other as the digits of their dates do.** -/
theorem Date.toDays_lt_iff (valid : date.isValid = true) (valid' : date'.isValid = true)
    (old : 0 ≤ date.year) (old' : 0 ≤ date'.year) :
    date.toDays < date'.toDays ↔ date.number < date'.number := by
  constructor
  · intro h
    rcases Nat.lt_trichotomy date.number date'.number with before | same | after
    · exact before
    · rw [Date.number_inj valid valid' old old' same] at h
      exact absurd h (Int.lt_irrefl _)
    · have back := Date.toDays_lt valid' valid old' old after
      omega
  · exact Date.toDays_lt valid valid' old old'

/-! ## The order of points in time -/

/-- One point in time comes before another. -/
def Instant.Before (t u : Instant) : Prop :=
  t.day < u.day ∨ t.day = u.day ∧
    (t.second < u.second ∨ t.second = u.second ∧ t.nanos < u.nanos)

namespace Clock

variable {clock clock' : Clock} {millis millis' : Nat}

def number (clock : Clock) : Nat :=
  ((clock.date.number * 100 + clock.hour) * 100 + clock.minute) * 100 + clock.second

/-- **Points in time follow each other as the digits of what clocks show do.** -/
theorem before_iff (shown : clock.IsShown) (shown' : clock'.IsShown) (small : millis < 1000)
    (small' : millis' < 1000) :
    (clock.instant millis).Before (clock'.instant millis') ↔
      clock.number * 1000 + millis < clock'.number * 1000 + millis' := by
  have days := Date.toDays_lt_iff shown.date shown'.date shown.old shown'.old
  have days' := Date.toDays_lt_iff shown'.date shown.date shown'.old shown.old
  obtain ⟨date, hour, minute, second⟩ := clock
  obtain ⟨date', hour', minute', second'⟩ := clock'
  have hours : hour ≤ 23 := shown.hour
  have minutes : minute ≤ 59 := shown.minute
  have seconds : second ≤ 60 := shown.second
  have hours' : hour' ≤ 23 := shown'.hour
  have minutes' : minute' ≤ 59 := shown'.minute
  have seconds' : second' ≤ 60 := shown'.second
  simp only [Instant.Before, instant, Instant.ofClock, number, nanosPerSecond] at *
  by_cases leap : second = 60 <;> by_cases leap' : second' = 60
  all_goals
    simp only [leap, leap', if_true, if_false]
    omega

end Clock

end WebCapture.Time
