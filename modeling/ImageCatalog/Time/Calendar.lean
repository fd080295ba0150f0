/-!
# The calendar

The proleptic Gregorian calendar over day numbers, where day 0 is 1 January 1970 and years may be
zero or negative.

## Main definitions

* `Calendar.dayNumber` — the number of a date.
* `Calendar.yearOf`, `Calendar.dateOf` — the date of a day number.
* `Calendar.isDate` — which triples are dates.
-/

namespace ImageCatalog.Calendar

/-- Every fourth year is a leap year, but of the centuries only every fourth. -/
def isLeap (year : Int) : Bool :=
  year % 4 == 0 && (year % 100 != 0 || year % 400 == 0)

/-- The number of the first day of `year`. -/
def yearStart (year : Int) : Int :=
  365 * (year - 1970) + (year - 1) / 4 - (year - 1) / 100 + (year - 1) / 400 - 477

/-- The year that the day number lies in. An average year has 146097/400 days; the estimate from
it is off by one year at most. -/
def yearOf (day : Int) : Int :=
  let guess := (400 * (day + 719162)) / 146097 + 1
  if day < yearStart guess then guess - 1
  else if yearStart (guess + 1) ≤ day then guess + 1
  else guess

/-- Days of a year before its month `month`, counted from 1. -/
def monthStart (leap : Bool) (month : Nat) : Nat :=
  let shift := if leap then 1 else 0
  match month with
  | 1 => 0
  | 2 => 31
  | 3 => 59 + shift
  | 4 => 90 + shift
  | 5 => 120 + shift
  | 6 => 151 + shift
  | 7 => 181 + shift
  | 8 => 212 + shift
  | 9 => 243 + shift
  | 10 => 273 + shift
  | 11 => 304 + shift
  | 12 => 334 + shift
  | _ => 365 + shift

/-- The month of the day that comes `n` days after the first of January. -/
def monthOf (leap : Bool) (n : Nat) : Nat :=
  ([12, 11, 10, 9, 8, 7, 6, 5, 4, 3, 2].find? fun m => monthStart leap m ≤ n).getD 1

/-- The number of days of a month. -/
def monthLength (leap : Bool) (month : Nat) : Nat :=
  monthStart leap (month + 1) - monthStart leap month

/-- Whether the calendar has such a day. -/
def isDate (year : Int) (month day : Nat) : Bool :=
  1 ≤ month && month ≤ 12 && 1 ≤ day && day ≤ monthLength (isLeap year) month

/-- The number of a date. -/
def dayNumber (year : Int) (month day : Nat) : Int :=
  yearStart year + (monthStart (isLeap year) month + day : Nat) - 1

/-- Year, month and day of a day number. -/
def dateOf (day : Int) : Int × Nat × Nat :=
  let year := yearOf day
  let leap := isLeap year
  let n := (day - yearStart year).toNat
  let month := monthOf leap n
  (year, month, n - monthStart leap month + 1)

end ImageCatalog.Calendar
