import WebCapture.Time.Calendar

set_option autoImplicit false

/-! # The count of days is exact

Every date has a place in the count of days of its own: `Date.ofDays_toDays` finds the date again
from its place.

The year comes first. `yearOf` guesses it from the mean length of a year and corrects the guess,
which is right because the first days of years are never far from where they would be if all years
were alike. The month is found by going through the lengths of the months.
-/

namespace WebCapture.Time

/-! ## Years -/

def yearLength (leap : Bool) : Nat := if leap then 366 else 365

theorem daysBeforeYear_succ (year : Int) :
    daysBeforeYear (year + 1) = daysBeforeYear year + yearLength (isLeapYear year) := by
  unfold daysBeforeYear isLeapYear yearLength
  by_cases h₄ : year % 4 = 0
  · by_cases h₁₀₀ : year % 100 = 0
    · by_cases h₄₀₀ : year % 400 = 0
      · simp only [h₄, h₁₀₀, h₄₀₀, bne_self_eq_false, beq_self_eq_true, Bool.or_true,
          Bool.and_true, if_true]
        omega
      · simp [h₄, h₁₀₀, h₄₀₀]
        omega
    · simp [h₄, h₁₀₀]
      omega
  · simp [h₄]
    omega

/-- The mean length of a year is a guess that is wrong by one year at most. -/
theorem yearOf_eq {year n : Int} (start : daysBeforeYear year ≤ n)
    (stop : n < daysBeforeYear (year + 1)) : yearOf n = year := by
  have low : year - 1 ≤ n * 400 / 146097 := by
    unfold daysBeforeYear at start
    omega
  have high : n * 400 / 146097 ≤ year + 1 := by
    unfold daysBeforeYear at stop
    omega
  -- The guess is one year early, right or one year late.
  obtain h | h | h : n * 400 / 146097 = year - 1 ∨ n * 400 / 146097 = year ∨
      n * 400 / 146097 = year + 1 := by omega
  · rw [yearOf, h]
    have before : daysBeforeYear (year - 1) ≤ daysBeforeYear year := by
      unfold daysBeforeYear
      omega
    simp only [Int.sub_add_cancel]
    rw [if_neg (by omega), if_pos start]
  · rw [yearOf, h, if_neg (by omega), if_neg (by omega)]
  · rw [yearOf, h, if_pos stop, Int.add_sub_cancel]

/-! ## Months -/

theorem foldl_add (start : Nat) (lengths : List Nat) :
    lengths.foldl (· + ·) start = start + lengths.foldl (· + ·) 0 := by
  induction lengths generalizing start with
  | nil => rfl
  | cons length more ih =>
      rw [List.foldl_cons, List.foldl_cons, ih, ih (0 + length), Nat.zero_add, Nat.add_assoc]

/-- The month and the day in it of a day that lies `k` months after the first one. -/
theorem monthAndDay_sum (month : Nat) (lengths : List Nat) (k day : Nat)
    (h : day < lengths.getD k 0) :
    monthAndDay month lengths ((lengths.take k).foldl (· + ·) 0 + day) = (month + k, day + 1) := by
  induction lengths generalizing month k with
  | nil => exact absurd h (Nat.not_lt_zero day)
  | cons length more ih =>
      cases k with
      | zero =>
          have first : day < length := h
          rw [List.take_zero, List.foldl_nil, Nat.zero_add, monthAndDay, if_pos first]
          rfl
      | succ k =>
          have sum : ((length :: more).take (k + 1)).foldl (· + ·) 0
              = length + (more.take k).foldl (· + ·) 0 := by
            rw [List.take_succ_cons, List.foldl_cons, Nat.zero_add, foldl_add]
          rw [sum, monthAndDay, if_neg (by omega), Nat.add_assoc, Nat.add_sub_cancel_left,
            ih (month + 1) k h]
          congr 1
          omega

/-- Only a month has days. -/
theorem month_of_lt_monthLength {leap : Bool} {month day : Nat}
    (h : day < monthLength leap month) : 1 ≤ month ∧ month ≤ 12 := by
  have positive : month ≠ 0 := by
    rintro rfl
    rw [monthLength, if_pos rfl] at h
    exact Nat.not_lt_zero _ h
  refine ⟨by omega, Decidable.byContradiction fun late => ?_⟩
  have outside : (monthLengths leap).length ≤ month - 1 := by
    show 12 ≤ month - 1
    omega
  rw [monthLength, if_neg positive, List.getD_eq_getElem?_getD,
    List.getElem?_eq_none outside] at h
  exact Nat.not_lt_zero _ h

/-- What the table of the months' lengths says of each of them. -/
theorem monthLength_bounds {leap : Bool} {month day : Nat} (h : day < monthLength leap month) :
    monthLength leap month ≤ 31 ∧
      daysBeforeMonth leap month + monthLength leap month ≤ yearLength leap := by
  have all : ∀ month : Fin 13, monthLength leap month.val ≤ 31 ∧
      daysBeforeMonth leap month.val + monthLength leap month.val ≤ yearLength leap := by
    cases leap <;> decide
  have months : month < 13 := Nat.lt_succ_of_le (month_of_lt_monthLength h).2
  exact all ⟨month, months⟩

/-! ## Dates -/

/-- **A date is found again from its place in the count of days.** -/
theorem Date.ofDays_toDays {date : Date} (valid : date.isValid = true) :
    Date.ofDays date.toDays = date := by
  obtain ⟨year, month, day⟩ := date
  simp only [Date.isValid, Bool.and_eq_true, decide_eq_true_eq] at valid
  obtain ⟨first, last⟩ := valid
  have inMonth : day - 1 < monthLength (isLeapYear year) month := by omega
  obtain ⟨-, inYear⟩ := monthLength_bounds inMonth
  have next := daysBeforeYear_succ year
  -- The place without the epoch, as `ofDays` takes it apart.
  have place : Date.toDays ⟨year, month, day⟩ + epoch
      = daysBeforeYear year + (daysBeforeMonth (isLeapYear year) month + (day - 1) : Nat) := by
    simp only [Date.toDays]
    omega
  have here : yearOf (Date.toDays ⟨year, month, day⟩ + epoch) = year := by
    rw [place]
    exact yearOf_eq (by omega) (by omega)
  obtain ⟨positive, -⟩ := month_of_lt_monthLength inMonth
  have found : monthAndDay 1 (monthLengths (isLeapYear year))
      (daysBeforeMonth (isLeapYear year) month + (day - 1)) = (month, day) := by
    rw [monthLength, if_neg (by omega)] at inMonth
    rw [daysBeforeMonth, monthAndDay_sum 1 _ _ _ inMonth]
    congr 1 <;> omega
  have inside : (Date.toDays ⟨year, month, day⟩ + epoch - daysBeforeYear year).toNat
      = daysBeforeMonth (isLeapYear year) month + (day - 1) := by omega
  rw [Date.ofDays, here]
  simp only [inside, found]

/-- The month of a date is one of twelve, and its day one of at most thirty-one. -/
theorem Date.month_day_bounds {date : Date} (valid : date.isValid = true) :
    1 ≤ date.month ∧ date.month ≤ 12 ∧ 1 ≤ date.day ∧ date.day ≤ 31 := by
  obtain ⟨year, month, day⟩ := date
  simp only [Date.isValid, Bool.and_eq_true, decide_eq_true_eq] at valid
  have inMonth : day - 1 < monthLength (isLeapYear year) month := by omega
  obtain ⟨low, high⟩ := month_of_lt_monthLength inMonth
  obtain ⟨short, -⟩ := monthLength_bounds inMonth
  exact ⟨low, high, valid.1, Nat.le_trans valid.2 short⟩

end WebCapture.Time
