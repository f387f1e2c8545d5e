import WebCapture.Proofs.Time.Clock
import WebCapture.Proofs.Time.Digits

set_option autoImplicit false

/-! # Stamps

A stamp is what a clock shows in digits, to the second or to the millisecond (`Stamp.text`). Its
time gives the stamp back (`Stamp.instant_stamp`), times follow each other as the numbers of their
stamps do (`Stamp.before_iff`), and fourteen digits denote what a clock can show, or nothing
(`ofDigits?_eq_some`).

Two stamps are compared as numbers only if they have the same width. The width of a stamp is known
from its digits alone, so that it is never in doubt which of the two kinds is meant.
-/

namespace WebCapture.Time

open Text.Utf8 (Bytes ofString)

/-! ## Stamps -/

/-- What a clock shows, with the milliseconds behind it if they are told. -/
structure Stamp where
  clock : Clock
  millis : Option Nat

namespace Stamp

structure IsShown (stamp : Stamp) : Prop where
  clock : stamp.clock.IsShown
  millis : ∀ millis ∈ stamp.millis, millis < 1000

/-- The stamp in digits, `YYYYMMDDhhmmss` or `YYYYMMDDhhmmssfff`. -/
def text (stamp : Stamp) : String :=
  match stamp.millis with
  | none => stamp.clock.digits
  | some millis => stamp.clock.digits ++ padded 3 millis

def instant (stamp : Stamp) : Instant := stamp.clock.instant (stamp.millis.getD 0)

end Stamp

/-- The stamp of a time, with or without milliseconds. -/
def Instant.stamp (t : Instant) (withMillis : Bool) : Stamp :=
  ⟨t.clock, if withMillis then some t.fraction else none⟩

/-! ## The digits of a stamp -/

variable {clock clock' : Clock} {stamp stamp' : Stamp}

theorem Clock.spells_digits (shown : clock.IsShown) :
    Spells (ofString clock.digits) 14 clock.number := by
  have old := shown.old
  have new := shown.new
  have hours := shown.hour
  have minutes := shown.minute
  have seconds := shown.second
  obtain ⟨-, months, -, days⟩ := Date.month_day_bounds shown.date
  have two : ∀ n < 100, Spells (ofString (padded 2 n)) 2 n := fun n h => spells_padded (by decide) h
  have year : Spells (ofString (padded 4 clock.date.year.natAbs)) 4 clock.date.year.natAbs :=
    spells_padded (by decide) (by omega)
  have whole := ((((year.append (two clock.date.month (by omega))).append
    (two clock.date.day (by omega))).append (two clock.hour (by omega))).append
    (two clock.minute (by omega))).append (two clock.second (by omega))
  simp only [Clock.digits, Text.Utf8.ofString_append]
  exact whole

namespace Stamp

def width (stamp : Stamp) : Nat := if stamp.millis.isSome then 17 else 14

theorem width_cases (stamp : Stamp) : stamp.width = 14 ∨ stamp.width = 17 := by
  unfold width
  split
  · exact .inr rfl
  · exact .inl rfl

def number (stamp : Stamp) : Nat :=
  match stamp.millis with
  | none => stamp.clock.number
  | some millis => stamp.clock.number * 1000 + millis

theorem spells_text (shown : stamp.IsShown) :
    Spells (ofString stamp.text) stamp.width stamp.number := by
  obtain ⟨clock, millis⟩ := stamp
  have digits := Clock.spells_digits shown.clock
  cases millis with
  | none => exact digits
  | some millis =>
      have small : millis < 1000 := shown.millis millis rfl
      have more : Spells (ofString (padded 3 millis)) 3 millis := spells_padded (by decide) small
      have whole := digits.append more
      rwa [← Text.Utf8.ofString_append] at whole

theorem instant_stamp (shown : stamp.IsShown) :
    stamp.instant.stamp stamp.millis.isSome = stamp := by
  obtain ⟨clock, millis⟩ := stamp
  cases millis with
  | none =>
      obtain ⟨same, -⟩ := Clock.clock_instant shown.clock (by decide : 0 < 1000)
      show Stamp.mk _ none = _
      exact congrArg (Stamp.mk · none) same
  | some millis =>
      obtain ⟨same, behind⟩ := Clock.clock_instant shown.clock (shown.millis millis rfl)
      show Stamp.mk (clock.instant millis).clock (some (clock.instant millis).fraction) = _
      rw [same, behind]

/-- Times follow each other as stamps of one width do. -/
theorem before_iff (shown : stamp.IsShown) (shown' : stamp'.IsShown)
    (alike : stamp.width = stamp'.width) :
    stamp.instant.Before stamp'.instant ↔ stamp.number < stamp'.number := by
  obtain ⟨clock, millis⟩ := stamp
  obtain ⟨clock', millis'⟩ := stamp'
  cases millis with
  | none =>
      cases millis' with
      | none =>
          have order := Clock.before_iff shown.clock shown'.clock (by decide : 0 < 1000)
            (by decide : 0 < 1000)
          refine order.trans ?_
          simp only [number]
          omega
      | some millis' => cases alike
  | some millis =>
      cases millis' with
      | none => cases alike
      | some millis' =>
          exact Clock.before_iff shown.clock shown'.clock (shown.millis millis rfl)
            (shown'.millis millis' rfl)

end Stamp

/-! ## Reading the digits

Fourteen digits always show something, if only on a clock with more than twelve months. `clockOf`
is that clock, and whether it can be shown is a question of its own.
-/

def clockOf (digits : Bytes) : Clock :=
  let part (start width : Nat) := number ((digits.drop start).take width)
  ⟨⟨part 0 4, part 4 2, part 6 2⟩, part 8 2, part 10 2, part 12 2⟩

theorem number_take_add {digits : Bytes} {k : Nat} (long : k + 2 ≤ digits.length) :
    number (digits.take (k + 2))
      = number (digits.take k) * 100 + number ((digits.drop k).take 2) := by
  have two : ((digits.drop k).take 2).length = 2 := by
    rw [List.length_take, List.length_drop]
    omega
  rw [List.take_add, number_behind, two]
  rfl

theorem number_clockOf {digits : Bytes} (long : 14 ≤ digits.length) :
    (clockOf digits).number = number (digits.take 14) := by
  rw [number_take_add (k := 12) long, number_take_add (k := 10) (by omega),
    number_take_add (k := 8) (by omega), number_take_add (k := 6) (by omega),
    number_take_add (k := 4) (by omega)]
  rfl

/-- A clock is told from the number that its digits spell. -/
theorem clockOf_eq {digits : Bytes} (long : 14 ≤ digits.length) (shown : clock.IsShown)
    (same : clock.number = number (digits.take 14)) : clockOf digits = clock := by
  have numbers : (clockOf digits).number = clock.number := by rw [number_clockOf long, same]
  have two : ∀ start, number ((digits.drop start).take 2) < 100 := fun start =>
    Nat.lt_of_lt_of_le (number_lt _) (Nat.pow_le_pow_right (by decide) (List.length_take_le _ _))
  have old := shown.old
  have hours := shown.hour
  have minutes := shown.minute
  have seconds := shown.second
  obtain ⟨-, months, -, days⟩ := Date.month_day_bounds shown.date
  obtain ⟨⟨year, month, day⟩, hour, minute, second⟩ := clock
  have h₄ := two 4
  have h₆ := two 6
  have h₈ := two 8
  have h₁₀ := two 10
  have h₁₂ := two 12
  simp only [clockOf, Clock.number, Date.number, Clock.mk.injEq, Date.mk.injEq] at *
  omega

theorem ofDigits?_eq_some {digits : Bytes} {millis : Nat} {t : Instant} :
    ofDigits? digits (millis * 1000000) = some t ↔
      (clockOf digits).IsShown ∧ t = (clockOf digits).instant millis := by
  have year : number ((digits.drop 0).take 4) < 10 ^ 4 :=
    Nat.lt_of_lt_of_le (number_lt _) (Nat.pow_le_pow_right (by decide) (List.length_take_le _ _))
  unfold ofDigits?
  dsimp only
  split
  · rename_i parts
    obtain ⟨valid, hours, minutes, seconds⟩ := parts
    constructor
    · intro h
      refine ⟨⟨valid, Int.natCast_nonneg _, ?_, hours, minutes, seconds⟩, (Option.some.inj h).symm⟩
      show (number ((digits.drop 0).take 4) : Int) ≤ 9999
      omega
    · rintro ⟨-, rfl⟩
      rfl
  · rename_i refused
    constructor
    · intro h
      cases h
    · rintro ⟨shown, -⟩
      exact absurd ⟨shown.date, shown.hour, shown.minute, shown.second⟩ refused

end WebCapture.Time
