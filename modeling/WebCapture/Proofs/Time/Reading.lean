import WebCapture.Proofs.Program
import WebCapture.Proofs.Text.Blank
import WebCapture.Proofs.Time.Clock
import WebCapture.Proofs.Time.Digits

set_option autoImplicit false

/-! # Points in time survive as text

A time that clocks show, with whole milliseconds and in a year of four digits, is read back from
its text as it was (`read_text`). A leap second is written as second 60 and read back as such.

Other times are not read back from their texts: parts of a millisecond are cut off when a time is
written. So what is kept as text has to be known to be a time of clocks, as the times of stamps
are (`isClockTime_of_ofDigits?`).
-/

namespace WebCapture.Time

open Text.Utf8 (Bytes)

/-! ## Steps of the reader -/

theorem readDigits_append {bytes : Bytes} {width n : Nat} (h : Spells bytes width n)
    (rest : Bytes) : readDigits width (bytes ++ rest) = .ok (n, rest) := by
  obtain ⟨length, digits, value⟩ := h
  have long : ¬(bytes ++ rest).length < width := by
    rw [List.length_append]
    omega
  rw [readDigits, if_neg long, ← length, List.take_left, List.drop_left, if_pos digits, value]

theorem readBetween_append {bytes : Bytes} {width n lo hi : Nat} (h : Spells bytes width n)
    (low : lo ≤ n) (high : n ≤ hi) (rest : Bytes) :
    readBetween width lo hi (bytes ++ rest) = .ok (n, rest) := by
  rw [readBetween, readDigits_append h]
  exact if_pos ⟨low, high⟩

/-- A fraction in three digits tells milliseconds, if no digit follows. -/
theorem readFraction_append {bytes : Bytes} {n : Nat} {b : UInt8} (h : Spells bytes 3 n)
    (final : digit? b = none) (rest : Bytes) :
    readFraction (0x2E :: (bytes ++ b :: rest)) = .ok (n * 1000000, b :: rest) := by
  obtain ⟨length, digits, value⟩ := h
  have all : ∀ b ∈ bytes, (digit? b).isSome = true := List.all_eq_true.mp digits
  have stop : ∀ c ∈ (b :: rest).head?, (digit? c).isSome = false := by
    intro c hc
    cases hc
    rw [final]
    rfl
  have taken : (bytes ++ b :: rest).takeWhile (digit? · |>.isSome) = bytes :=
    Text.takeWhile_append_stop all stop
  have left : (bytes ++ b :: rest).dropWhile (digit? · |>.isSome) = b :: rest :=
    Text.dropWhile_append_stop all stop
  have some : bytes ≠ [] := by
    rintro rfl
    cases length
  have short : bytes.take 9 = bytes := List.take_of_length_le (by omega)
  simp only [readFraction, taken, left, if_neg some, short, value, length]

/-! ## Times of clocks -/

/-- A time that clocks show, in whole milliseconds and in a year of four digits. Second 60 is a
leap second. -/
def Instant.IsClockTime (t : Instant) : Prop :=
  ∃ (date : Date) (hour minute second millis : Nat),
    date.isValid = true ∧ 0 ≤ date.year ∧ date.year ≤ 9999 ∧ hour < 24 ∧ minute < 60 ∧
      second ≤ 60 ∧ millis < 1000 ∧ t = .ofClock date hour minute second (millis * 1000000)

/-- The text of such a time shows what the clock shows. -/
theorem Clock.text_instant {clock : Clock} {millis : Nat} (shown : clock.IsShown)
    (small : millis < 1000) :
    (clock.instant millis).text =
      padded 4 clock.date.year.natAbs ++ "-" ++ padded 2 clock.date.month ++ "-" ++
        padded 2 clock.date.day ++ "T" ++ padded 2 clock.hour ++ ":" ++ padded 2 clock.minute ++
        ":" ++ padded 2 clock.second ++ "." ++ padded 3 millis ++ "Z" := by
  obtain ⟨same, behind⟩ := clock_instant shown small
  have year : yearText clock.date.year = padded 4 clock.date.year.natAbs := by
    have old := shown.old
    have new := shown.new
    rw [yearText, if_neg (by omega), if_neg (by omega)]
  have parts : ∀ t : Instant, t.text =
      yearText t.clock.date.year ++ "-" ++ padded 2 t.clock.date.month ++ "-" ++
        padded 2 t.clock.date.day ++ "T" ++ padded 2 t.clock.hour ++ ":" ++
        padded 2 t.clock.minute ++ ":" ++ padded 2 t.clock.second ++ "." ++
        padded 3 t.fraction ++ "Z" := fun _ => rfl
  rw [parts, same, behind, year]

/-- A clock that is not ahead shows the time itself. -/
theorem Instant.behind_zero {t : Instant} (h : t.second < 86400) : t.behind 0 = t := by
  obtain ⟨day, second, nanos⟩ := t
  have h' : second < 86400 := h
  have days : (day * 86400 + second - 0) / 86400 = day := by omega
  have seconds : ((day * 86400 + second - 0) % 86400).toNat = second := by omega
  simp only [Instant.behind, days, seconds]

/-- **A time that clocks show is read back from its text.** -/
theorem read_text {t : Instant} (h : t.IsClockTime) : read t.text = .ok t := by
  obtain ⟨date, hour, minute, second, millis, valid, old, new, hours, minutes, seconds, fraction,
    rfl⟩ := h
  obtain ⟨month₁, month₂, day₁, day₂⟩ := Date.month_day_bounds valid
  have shown : (Clock.mk date hour minute second).IsShown :=
    ⟨valid, old, new, Nat.le_of_lt_succ hours, Nat.le_of_lt_succ minutes, seconds⟩
  have year : (date.year.natAbs : Int) = date.year := by omega
  have inDay : (Instant.ofClock date hour minute second (millis * 1000000)).second < 86400 := by
    unfold Instant.ofClock
    by_cases leap : second = 60
    · simp only [if_pos leap]
      omega
    · simp only [if_neg leap]
      omega
  have spelled : ∀ n < 100, Spells (Text.Utf8.ofString (padded 2 n)) 2 n := fun n h =>
    spells_padded (by decide) h
  have months : date.month < 100 := by omega
  have days : date.day < 100 := by omega
  have spelledYear : Spells (Text.Utf8.ofString (padded 4 date.year.natAbs)) 4 date.year.natAbs :=
    spells_padded (by decide) (by omega)
  have spelledMillis : Spells (Text.Utf8.ofString (padded 3 millis)) 3 millis :=
    spells_padded (by decide) (by omega)
  -- The marks between the numbers, and how the reader passes them.
  have dash : Text.Utf8.ofString "-" = [0x2D] := by decide
  have letterT : Text.Utf8.ofString "T" = [0x54] := by decide
  have colon : Text.Utf8.ofString ":" = [0x3A] := by decide
  have point : Text.Utf8.ofString "." = [0x2E] := by decide
  have letterZ : Text.Utf8.ofString "Z" = [0x5A] := by decide
  have afterDate : ∀ rest, readMark ['-'] (0x2D :: rest) = .ok rest := fun rest => rfl
  have afterDay : ∀ rest, readMark ['T', 't', ' '] (0x54 :: rest) = .ok rest := fun rest => rfl
  have afterHour : ∀ rest, readMark [':'] (0x3A :: rest) = .ok rest := fun rest => rfl
  have final : digit? 0x5A = none := by decide
  have utc : readOffset [0x5A] = .ok (0, []) := rfl
  have written := Clock.text_instant shown fraction
  simp only [Clock.instant] at written
  rw [written, read]
  simp only [Text.Utf8.ofString_append, List.append_assoc, dash, letterT, colon, point, letterZ,
    List.cons_append, List.nil_append]
  simp only [readDigits_append spelledYear, readBetween_append (spelled _ months) month₁ month₂,
    readBetween_append (spelled _ days) day₁ day₂,
    readBetween_append (spelled hour (by omega)) (Nat.zero_le hour) (Nat.le_of_lt_succ hours),
    readBetween_append (spelled minute (by omega)) (Nat.zero_le minute) (Nat.le_of_lt_succ minutes),
    readBetween_append (spelled second (by omega)) (Nat.zero_le second) seconds,
    readFraction_append spelledMillis final, afterDate, afterDay, afterHour, utc, ok_bind]
  rw [if_neg (by decide), if_neg (by decide)]
  simp only [year, valid, if_true, Instant.behind_zero inDay]
  rfl

/-! ## Stamps -/

/-- The time that fourteen digits denote is one that clocks show. -/
theorem isClockTime_of_ofDigits? {digits : Bytes} {millis : Nat} {t : Instant}
    (h : ofDigits? digits (millis * 1000000) = some t) (small : millis < 1000) :
    t.IsClockTime := by
  unfold ofDigits? at h
  dsimp only at h
  split at h
  · rename_i parts
    obtain ⟨valid, hours, minutes, seconds⟩ := parts
    have years : number ((digits.drop 0).take 4) < 10 ^ 4 :=
      Nat.lt_of_lt_of_le (number_lt _) (Nat.pow_le_pow_right (by decide) (List.length_take_le _ _))
    refine ⟨_, _, _, _, millis, valid, Int.natCast_nonneg _, ?_, by omega, by omega, seconds, small,
      (Option.some.inj h).symm⟩
    show (number ((digits.drop 0).take 4) : Int) ≤ 9999
    omega
  · cases h

end WebCapture.Time
