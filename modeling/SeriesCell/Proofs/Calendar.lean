import SeriesCell.Time.Calendar

namespace SeriesCell

theorem days_before_next_year (year : Int) :
    daysBeforeYear (year + 1) = daysBeforeYear year + totalDays (monthLengths (isLeapYear year)) := by
  have common : totalDays (monthLengths false) = 365 := rfl
  have leap : totalDays (monthLengths true) = 366 := rfl
  by_cases fourth : year % 4 = 0
  · by_cases century : year % 100 = 0
    · by_cases cycle : year % 400 = 0
      · have long : isLeapYear year = true := by simp [isLeapYear, fourth, cycle]
        rw [long, leap, daysBeforeYear, daysBeforeYear]
        omega
      · have short : isLeapYear year = false := by simp [isLeapYear, century, cycle]
        rw [short, common, daysBeforeYear, daysBeforeYear]
        omega
    · have long : isLeapYear year = true := by simp [isLeapYear, fourth, century]
      rw [long, leap, daysBeforeYear, daysBeforeYear]
      omega
  · have short : isLeapYear year = false := by simp [isLeapYear, fourth]
    rw [short, common, daysBeforeYear, daysBeforeYear]
    omega

-- By the mean length of a year the guess is off by less than a year in either direction.
theorem guessed_year (days : Int) :
    daysBeforeYear (days * 400 / 146097) ≤ days ∧ days < daysBeforeYear (days * 400 / 146097 + 1 + 1 + 1) := by
  unfold daysBeforeYear
  omega

theorem year_of_day_bounds (days : Int) :
    daysBeforeYear (yearOfDay days) ≤ days ∧ days < daysBeforeYear (yearOfDay days + 1) := by
  obtain ⟨low, high⟩ := guessed_year days
  unfold yearOfDay
  by_cases before : days < daysBeforeYear (days * 400 / 146097 + 1)
  · simp only [if_pos before, Int.add_sub_cancel]
    exact ⟨low, before⟩
  · by_cases after : daysBeforeYear (days * 400 / 146097 + 1 + 1) ≤ days
    · simp only [if_neg before, if_pos after]
      exact ⟨after, high⟩
    · simp only [if_neg before, if_neg after]
      exact ⟨Int.not_lt.mp before, Int.not_le.mp after⟩

theorem month_and_day_place (lengths : List Nat) (month days : Nat) (inside : days < totalDays lengths) :
    ∃ index, index < lengths.length ∧ (monthAndDay lengths month days).1 = month + index ∧
      1 ≤ (monthAndDay lengths month days).2 ∧
      (monthAndDay lengths month days).2 ≤ lengths.getD index 0 ∧
      totalDays (lengths.take index) + (monthAndDay lengths month days).2 = days + 1 := by
  induction lengths generalizing month days with
  | nil => exact absurd inside (Nat.not_lt_zero days)
  | cons length rest ih =>
    have whole : totalDays (length :: rest) = length + totalDays rest := rfl
    rw [monthAndDay]
    by_cases here : days < length
    · rw [if_pos here]
      exact ⟨0, Nat.succ_pos _, rfl, Nat.succ_pos days, here, Nat.zero_add _⟩
    · rw [if_neg here]
      obtain ⟨index, within, later, positive, short, total⟩ :=
        ih (month + 1) (days - length) (by omega)
      have more : totalDays ((length :: rest).take (index + 1)) =
          length + totalDays (rest.take index) := rfl
      exact ⟨index + 1, Nat.succ_lt_succ within, by omega, positive, short, by omega⟩

namespace Date

theorem valid_iff (d : Date) : d.isValid = true ↔
    1 ≤ d.month ∧ d.month ≤ 12 ∧ 1 ≤ d.day ∧ d.day ≤ d.daysInMonth := by
  simp only [isValid, Bool.and_eq_true, decide_eq_true_eq, and_assoc]

theorem of_day_number (n : Int) : (ofDayNumber n).isValid = true ∧ (ofDayNumber n).dayNumber = n := by
  generalize days : n + daysBeforeYear 1970 = total
  obtain ⟨low, high⟩ := year_of_day_bounds total
  rw [days_before_next_year] at high
  obtain ⟨index, within, month, positive, short, sum⟩ :=
    month_and_day_place (monthLengths (isLeapYear (yearOfDay total))) 1
      (total - daysBeforeYear (yearOfDay total)).toNat (by omega)
  have twelve : (monthLengths (isLeapYear (yearOfDay total))).length = 12 := rfl
  have place : 1 + index - 1 = index := by omega
  constructor
  · rw [valid_iff, ofDayNumber, days]
    simp only [daysInMonth, month, place]
    exact ⟨by omega, by omega, positive, short⟩
  · rw [ofDayNumber, days]
    simp only [dayNumber, month, place]
    omega

end Date

end SeriesCell
