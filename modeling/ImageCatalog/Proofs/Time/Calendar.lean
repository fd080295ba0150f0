import ImageCatalog.Time.Calendar

/-!
# Dates of day numbers

The date of a day number is a date of the calendar, and has that number. The estimate of the year
is right because it is off by one year at most; the rest is about the days of one year, of which
there are 365 or 366.

## Main results

* `Calendar.yearStart_le`, `Calendar.lt_yearStart_succ` — a day lies in its year
* `Calendar.isDate_dateOf` — the date of a day number is a date
* `Calendar.dayNumber_dateOf` — and has that number
-/

namespace ImageCatalog.Calendar

/-! ### Years -/

/-- The days of a year. -/
def yearLength (leap : Bool) : Nat :=
  if leap then 366 else 365

theorem isLeap_iff (year : Int) :
    isLeap year = true ↔ year % 4 = 0 ∧ (year % 100 ≠ 0 ∨ year % 400 = 0) := by
  simp [isLeap]

theorem yearStart_succ (year : Int) :
    yearStart (year + 1) = yearStart year + yearLength (isLeap year) := by
  have hleap := isLeap_iff year
  cases h : isLeap year with
  | true =>
    have hdiv := hleap.mp h
    simp only [yearStart, yearLength, if_true]
    omega
  | false =>
    have hdiv : ¬ (year % 4 = 0 ∧ (year % 100 ≠ 0 ∨ year % 400 = 0)) := by
      rw [← hleap, h]
      exact Bool.false_ne_true
    simp only [yearStart, yearLength, Bool.false_eq_true, if_false]
    omega

/-- The estimate of the year from an average year. -/
def guess (day : Int) : Int :=
  (400 * (day + 719162)) / 146097 + 1

theorem yearStart_guess_pred_le (day : Int) : yearStart (guess day - 1) ≤ day := by
  simp only [yearStart, guess]
  omega

theorem lt_yearStart_guess_add_two (day : Int) : day < yearStart (guess day + 2) := by
  simp only [yearStart, guess]
  omega

theorem yearOf_eq (day : Int) :
    yearOf day = if day < yearStart (guess day) then guess day - 1
      else if yearStart (guess day + 1) ≤ day then guess day + 1 else guess day := rfl

/-- A day does not come before its year, -/
theorem yearStart_le (day : Int) : yearStart (yearOf day) ≤ day := by
  have hlow := yearStart_guess_pred_le day
  rw [yearOf_eq]
  split
  · exact hlow
  · split <;> omega

/-- and it comes before the next one. -/
theorem lt_yearStart_succ (day : Int) : day < yearStart (yearOf day + 1) := by
  have hhigh := lt_yearStart_guess_add_two day
  rw [yearOf_eq]
  split
  · rw [Int.sub_add_cancel]
    assumption
  · split
    · rw [Int.add_assoc]
      exact hhigh
    · omega

/-! ### Days of a year -/

/-- The number of a day within its year, counted from 0. -/
def dayOfYear (day : Int) : Nat :=
  (day - yearStart (yearOf day)).toNat

theorem dayOfYear_eq (day : Int) : (dayOfYear day : Int) = day - yearStart (yearOf day) := by
  have hle := yearStart_le day
  rw [dayOfYear]
  omega

theorem dayOfYear_lt (day : Int) : dayOfYear day < yearLength (isLeap (yearOf day)) := by
  have hlt := lt_yearStart_succ day
  have heq := dayOfYear_eq day
  rw [yearStart_succ] at hlt
  omega

/-- The months of a year follow each other without a gap. There are two kinds of years, with 366
days at most. -/
theorem month_of_day (leap : Bool) (n : Nat) (h : n < yearLength leap) :
    let month := monthOf leap n
    1 ≤ month ∧ month ≤ 12 ∧ monthStart leap month ≤ n ∧
      n - monthStart leap month + 1 ≤ monthLength leap month := by
  have hall : ∀ leap : Bool, ∀ n < yearLength leap,
      1 ≤ monthOf leap n ∧ monthOf leap n ≤ 12 ∧ monthStart leap (monthOf leap n) ≤ n ∧
        n - monthStart leap (monthOf leap n) + 1 ≤ monthLength leap (monthOf leap n) := by
    decide +kernel
  exact hall leap n h

theorem monthLength_le (leap : Bool) {month : Nat} (h : month ≤ 12) :
    monthLength leap month ≤ 31 := by
  have hall : ∀ leap : Bool, ∀ month ≤ 12, monthLength leap month ≤ 31 := by decide
  exact hall leap month h

/-! ### Dates -/

theorem dateOf_eq (day : Int) :
    let leap := isLeap (yearOf day)
    let month := monthOf leap (dayOfYear day)
    dateOf day = (yearOf day, month, dayOfYear day - monthStart leap month + 1) := rfl

/-- **The date of a day number is a date.** -/
theorem isDate_dateOf (day : Int) :
    isDate (dateOf day).1 (dateOf day).2.1 (dateOf day).2.2 = true := by
  obtain ⟨hone, htwelve, _, hlength⟩ := month_of_day _ _ (dayOfYear_lt day)
  rw [dateOf_eq]
  simp only [isDate, Bool.and_eq_true, decide_eq_true_eq]
  exact ⟨⟨⟨hone, htwelve⟩, Nat.le_add_left 1 _⟩, hlength⟩

/-- **The date of a day number has that number.** -/
theorem dayNumber_dateOf (day : Int) :
    dayNumber (dateOf day).1 (dateOf day).2.1 (dateOf day).2.2 = day := by
  obtain ⟨_, _, hstart, _⟩ := month_of_day _ _ (dayOfYear_lt day)
  have heq := dayOfYear_eq day
  rw [dateOf_eq]
  simp only [dayNumber]
  omega

/-- Months and days have two digits at most. -/
theorem dateOf_lt (day : Int) : (dateOf day).2.1 < 100 ∧ (dateOf day).2.2 < 100 := by
  have hdate := isDate_dateOf day
  simp only [isDate, Bool.and_eq_true, decide_eq_true_eq] at hdate
  obtain ⟨⟨⟨_, htwelve⟩, _⟩, hlength⟩ := hdate
  have hmax := monthLength_le (isLeap (dateOf day).1) htwelve
  omega

end ImageCatalog.Calendar
