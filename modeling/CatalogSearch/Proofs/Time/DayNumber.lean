import CatalogSearch.Proofs.Time.Calendar
import Mathlib.Tactic.IntervalCases

/-!
# Days counted one by one

The closed formula for the days of a date counts what the calendar says: the days of the years
before it, the days of the months before it in its year, and the days before it in its month. No
two days come to the same number.
-/
namespace CatalogSearch.Time

/-- The number of days of a year. -/
def daysInYear (year : Int) : Nat :=
  if isLeapYear year then 366 else 365

/-- Days from the first of January of year 0 to that of another year. -/
def daysBeforeYear : Int → Int
  | .ofNat year => ((List.range year).map fun y : Nat => (daysInYear y : Int)).sum
  | .negSucc year =>
    -((List.range (year + 1)).map fun y : Nat => (daysInYear (.negSucc y) : Int)).sum

/-- Days from the first of January to the first of another month of the year. -/
def daysBeforeMonth (year : Int) (month : Nat) : Nat :=
  ((List.range (month - 1)).map fun m => daysInMonth year (m + 1)).sum

/-- The number of a day. The first of January of year 0 has number 0. -/
def Date.number (date : Date) : Int :=
  daysBeforeYear date.year + daysBeforeMonth date.year date.month + (date.day - 1)

/-- A leap day comes with every fourth year, but not every hundredth, but every four hundredth. -/
theorem daysInYear_eq (year : Int) :
    (daysInYear year : Int) = 365 + ((year + 4) / 4 - (year + 3) / 4) -
      ((year + 100) / 100 - (year + 99) / 100) + ((year + 400) / 400 - (year + 399) / 400) := by
  unfold daysInYear isLeapYear
  split
  next leap =>
    simp only [Bool.and_eq_true, decide_eq_true_eq, Bool.or_eq_true] at leap
    omega
  next common =>
    simp only [Bool.and_eq_true, decide_eq_true_eq, Bool.or_eq_true, not_and_or, not_or] at common
    omega

/-- A year begins when the one before it is over. -/
theorem daysBeforeYear_add_one (year : Int) :
    daysBeforeYear (year + 1) = daysBeforeYear year + daysInYear year := by
  match year with
  | .ofNat y =>
    change ((List.range (y + 1)).map fun y : Nat => (daysInYear y : Int)).sum = _
    rw [List.range_succ, List.map_append, List.sum_append]
    rfl
  | .negSucc 0 => rfl
  | .negSucc (y + 1) =>
    change daysBeforeYear (.negSucc y) =
      -((List.range (y + 1 + 1)).map fun y : Nat => (daysInYear (.negSucc y) : Int)).sum + _
    rw [List.range_succ, List.map_append, List.sum_append, neg_add, List.map_singleton,
      List.sum_singleton, neg_add_cancel_right]
    rfl

/-- The days before a year, its leap days counted by fours, hundreds and four hundreds. -/
theorem daysBeforeYear_eq (year : Int) :
    daysBeforeYear year = 365 * year + (year + 3) / 4 - (year + 99) / 100 + (year + 399) / 400 := by
  induction year with
  | zero => rfl
  | succ year ih =>
    have step := daysBeforeYear_add_one year
    have length := daysInYear_eq year
    omega
  | pred year ih =>
    have step := daysBeforeYear_add_one (-year - 1)
    have length := daysInYear_eq (-year - 1)
    rw [Int.sub_add_cancel] at step
    omega

/-- From March on, the months of every year have the same lengths. -/
theorem daysBeforeMonth_eq (year : Int) {month : Nat} (first : 1 ≤ month) (last : month ≤ 12) :
    daysBeforeMonth year month =
      if month ≤ 2 then 31 * (month - 1)
      else daysInYear year - 306 + (153 * (month - 3) + 2) / 5 := by
  cases leap : isLeapYear year <;> interval_cases month <;>
    simp [daysBeforeMonth, daysInMonth, daysInYear, leap, List.range_succ]

/-- The closed formula counts from the first of January 1970. -/
theorem Date.number_eq {date : Date} (h : date.InCalendar) :
    date.number = date.toDays + 719528 := by
  obtain ⟨first, last, -, -⟩ := h
  have months := daysBeforeMonth_eq date.year first last
  have length := daysInYear_eq date.year
  unfold Date.number Date.toDays
  rw [daysBeforeYear_eq, months]
  dsimp only
  split <;> omega

theorem daysBeforeYear_le {year later : Int} (h : year ≤ later) :
    daysBeforeYear year ≤ daysBeforeYear later := by
  induction later, h using Int.leInduction with
  | base => exact le_rfl
  | succ later h ih =>
    rw [daysBeforeYear_add_one]
    exact ih.trans (Int.le_add_of_nonneg_right (Int.natCast_nonneg _))

theorem daysBeforeMonth_add_one (year : Int) {month : Nat} (first : 1 ≤ month) :
    daysBeforeMonth year (month + 1) = daysBeforeMonth year month + daysInMonth year month := by
  obtain ⟨m, rfl⟩ : ∃ m, month = m + 1 := ⟨month - 1, by omega⟩
  simp [daysBeforeMonth, List.range_succ]

/-- A month is over before any later one of the year begins. -/
theorem daysBeforeMonth_le (year : Int) {month later : Nat} (first : 1 ≤ month)
    (h : month < later) :
    daysBeforeMonth year month + daysInMonth year month ≤ daysBeforeMonth year later := by
  induction later, h using Nat.le_induction with
  | base => exact (daysBeforeMonth_add_one year first).ge
  | succ later h ih =>
    rw [daysBeforeMonth_add_one year (first.trans (Nat.le_of_succ_le h))]
    exact ih.trans (Nat.le_add_right _ _)

theorem daysBeforeMonth_thirteen (year : Int) : daysBeforeMonth year 13 = daysInYear year := by
  cases leap : isLeapYear year <;>
    simp [daysBeforeMonth, daysInMonth, daysInYear, leap, List.range_succ]

/-- A day comes after those of the years before it and before those of the years behind it. -/
theorem Date.number_range {date : Date} (h : date.InCalendar) :
    daysBeforeYear date.year ≤ date.number ∧ date.number < daysBeforeYear (date.year + 1) := by
  obtain ⟨first, last, day, length⟩ := h
  have rest := daysBeforeMonth_le date.year first (Nat.lt_succ_of_le last)
  rw [daysBeforeMonth_thirteen] at rest
  rw [Date.number, daysBeforeYear_add_one]
  omega

/-- No two days have one number. -/
theorem Date.eq_of_number_eq {date other : Date} (h : date.InCalendar) (h' : other.InCalendar)
    (same : date.number = other.number) : date = other := by
  have range := Date.number_range h
  have range' := Date.number_range h'
  obtain ⟨year, month, day⟩ := date
  obtain ⟨year', month', day'⟩ := other
  dsimp only at range range'
  obtain rfl : year = year' := by
    obtain before | same | after := Int.lt_trichotomy year year'
    · have passed := daysBeforeYear_le (Int.add_one_le_of_lt before)
      omega
    · exact same
    · have passed := daysBeforeYear_le (Int.add_one_le_of_lt after)
      omega
  obtain ⟨first, -, firstDay, lastDay⟩ := h
  obtain ⟨first', -, firstDay', lastDay'⟩ := h'
  dsimp only at first first' firstDay lastDay firstDay' lastDay'
  unfold Date.number at same
  dsimp only at same
  obtain before | rfl | after := Nat.lt_trichotomy month month'
  · have passed := daysBeforeMonth_le year first before
    omega
  · obtain rfl : day = day' := by omega
    rfl
  · have passed := daysBeforeMonth_le year first' after
    omega

end CatalogSearch.Time
