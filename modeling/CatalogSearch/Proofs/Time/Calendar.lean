import CatalogSearch.Time.Civil

/-!
# The calendar

Counting days forth and back changes nothing, and a date counted from days exists. Inside an era
of 400 years that begins with a March, the closed formula for the year is explained by the
position of the day: the century, the cycle of four years, the year of the cycle and the day.
-/
namespace CatalogSearch.Time

/-- The month and the day of the date exist. -/
def Date.InCalendar (date : Date) : Prop :=
  1 ≤ date.month ∧ date.month ≤ 12 ∧ 1 ≤ date.day ∧ date.day ≤ daysInMonth date.year date.month

instance (date : Date) : Decidable date.InCalendar :=
  inferInstanceAs (Decidable (_ ∧ _))

/-- Where a day of an era stands. Only the last year of a cycle can have a 366th day, and in the
last cycle of a century only the last century. -/
structure EraPosition (dayOfEra century cycle year day : Int) : Prop where
  split : dayOfEra = 36524 * century + 1461 * cycle + 365 * year + day
  century_range : 0 ≤ century ∧ century ≤ 3
  cycle_range : 0 ≤ cycle ∧ cycle ≤ 24
  year_range : 0 ≤ year ∧ year ≤ 3
  day_range : 0 ≤ day ∧ day ≤ 365
  leap : day = 365 → year = 3 ∧ (cycle = 24 → century = 3)

theorem exists_eraPosition (dayOfEra : Int) (lo : 0 ≤ dayOfEra) (hi : dayOfEra ≤ 146096) :
    ∃ century cycle year day, EraPosition dayOfEra century cycle year day := by
  have hcentury : ∃ century rest, dayOfEra = 36524 * century + rest ∧ 0 ≤ century ∧
      century ≤ 3 ∧ 0 ≤ rest ∧ rest ≤ 36524 ∧ (rest = 36524 → century = 3) := by
    by_cases top : dayOfEra = 146096
    · exact ⟨3, 36524, by omega⟩
    · exact ⟨dayOfEra / 36524, dayOfEra % 36524, by omega⟩
  obtain ⟨century, rest, rfl, hc0, hc3, hr0, hr1, hlast⟩ := hcentury
  have hyear : ∃ year day, rest % 1461 = 365 * year + day ∧ 0 ≤ year ∧ year ≤ 3 ∧ 0 ≤ day ∧
      day ≤ 365 ∧ (day = 365 → year = 3 ∧ rest % 1461 = 1460) := by
    by_cases top : rest % 1461 = 1460
    · exact ⟨3, 365, by omega⟩
    · exact ⟨rest % 1461 / 365, rest % 1461 % 365, by omega⟩
  obtain ⟨year, day, hsplit, hy0, hy3, hd0, hd1, hleap⟩ := hyear
  refine ⟨century, rest / 1461, year, day, by omega, ⟨hc0, hc3⟩, by omega, ⟨hy0, hy3⟩,
    ⟨hd0, hd1⟩, fun last => ⟨(hleap last).1, ?_⟩⟩
  have := (hleap last).2
  omega

/-- The formula for the year of an era finds the year of the position. -/
theorem EraPosition.yearOfEra {dayOfEra century cycle year day : Int}
    (h : EraPosition dayOfEra century cycle year day) :
    (dayOfEra - dayOfEra / 1460 + dayOfEra / 36524 - dayOfEra / 146096) / 365 =
      100 * century + 4 * cycle + year := by
  obtain ⟨split, century_range, cycle_range, year_range, day_range, leap⟩ := h
  have hcentury : dayOfEra / 36524 - dayOfEra / 146096 = century := by
    by_cases top : dayOfEra = 146096
    · subst top
      omega
    · have h1 : dayOfEra / 36524 = century := by omega
      have h2 : dayOfEra / 146096 = 0 := by omega
      omega
  -- One leap day for every cycle before this one, and at most one more that is carried over.
  have hcycle : dayOfEra / 1460 =
      25 * century + cycle + (24 * century + cycle + 365 * year + day) / 1460 := by omega
  have hcarry : (24 * century + cycle + 365 * year + day) / 1460 = 0 ∨
      (24 * century + cycle + 365 * year + day) / 1460 = 1 := by omega
  have hdays : dayOfEra - dayOfEra / 1460 + dayOfEra / 36524 - dayOfEra / 146096 =
      365 * (100 * century + 4 * cycle + year) +
        (day - (24 * century + cycle + 365 * year + day) / 1460) := by omega
  rw [hdays]
  omega

/-- Taking off the days of the years before leaves the day of the position. -/
theorem EraPosition.dayOfYear {dayOfEra century cycle year day : Int}
    (h : EraPosition dayOfEra century cycle year day) :
    dayOfEra - (365 * (100 * century + 4 * cycle + year) +
      (100 * century + 4 * cycle + year) / 4 - (100 * century + 4 * cycle + year) / 100) =
        day := by
  obtain ⟨split, century_range, cycle_range, year_range, day_range, -⟩ := h
  have h4 : (100 * century + 4 * cycle + year) / 4 = 25 * century + cycle := by omega
  have h100 : (100 * century + 4 * cycle + year) / 100 = century := by omega
  omega

/-- A 366th day, counted from March, is the leap day of the year that has begun since. -/
theorem EraPosition.isLeapYear {dayOfEra century cycle year day : Int} (era : Int)
    (h : EraPosition dayOfEra century cycle year day) (last : day = 365) :
    isLeapYear (100 * century + 4 * cycle + year + era * 400 + 1) = true := by
  obtain ⟨hyear, hcentury⟩ := h.leap last
  have hcycle := h.cycle_range
  simp only [Time.isLeapYear, Bool.and_eq_true, decide_eq_true_eq, Bool.or_eq_true]
  refine ⟨by omega, ?_⟩
  by_cases top : cycle = 24
  · have := hcentury top
    exact .inr (by omega)
  · exact .inl (by omega)

/-- The date of a day counted from the first of March of a year. -/
def Date.ofMarch (year day : Int) : Date :=
  let month := (5 * day + 2) / 153
  if month < 10 then ⟨year, (month + 3).toNat, (day - (153 * month + 2) / 5 + 1).toNat⟩
  else ⟨year + 1, (month - 9).toNat, (day - (153 * month + 2) / 5 + 1).toNat⟩

/-- A date counted from days is a day of a year that begins with a March, and the days before
that year are those of the whole eras and years. -/
theorem Date.ofDays_eq_ofMarch (days : Int) :
    ∃ era year day, Date.ofDays days = Date.ofMarch (year + era * 400) day ∧
      (0 ≤ year ∧ year ≤ 399) ∧ (0 ≤ day ∧ day ≤ 365) ∧
      (day = 365 → Time.isLeapYear (year + era * 400 + 1) = true) ∧
      days + 719468 = era * 146097 + (365 * year + year / 4 - year / 100 + day) := by
  obtain ⟨century, cycle, year, day, position⟩ :=
    exists_eraPosition ((days + 719468) % 146097) (by omega) (by omega)
  refine ⟨(days + 719468) / 146097, 100 * century + 4 * cycle + year, day, ?_, ?_⟩
  · simp only [Date.ofDays, Date.ofMarch, position.yearOfEra, position.dayOfYear]
  · have hleap := position.isLeapYear ((days + 719468) / 146097)
    have hday := position.dayOfYear
    obtain ⟨split, century_range, cycle_range, year_range, day_range, -⟩ := position
    exact ⟨by omega, day_range, hleap, by omega⟩

theorem Date.toDays_ofMarch (era year day : Int) (hyear : 0 ≤ year ∧ year ≤ 399)
    (hday : 0 ≤ day ∧ day ≤ 365) :
    (Date.ofMarch (year + era * 400) day).toDays =
      era * 146097 + (365 * year + year / 4 - year / 100 + day) - 719468 := by
  have hmonth : 0 ≤ (5 * day + 2) / 153 ∧ (5 * day + 2) / 153 ≤ 11 := by omega
  have hfirst : 1 ≤ day - (153 * ((5 * day + 2) / 153) + 2) / 5 + 1 := by omega
  have hera : (year + era * 400) / 400 = era := by omega
  have hyearOfEra : (year + era * 400) % 400 = year := by omega
  unfold Date.ofMarch
  dsimp only
  generalize (5 * day + 2) / 153 = month at *
  split
  · have hlate : ¬ (month + 3).toNat ≤ 2 := by omega
    have hback : (((month + 3).toNat : Nat) : Int) - 3 = month := by omega
    simp only [Date.toDays, if_neg hlate, hera, hyearOfEra, hback]
    omega
  · have hearly : (month - 9).toNat ≤ 2 := by omega
    have hback : (((month - 9).toNat : Nat) : Int) + 9 = month := by omega
    have hyearBack : year + era * 400 + 1 - 1 = year + era * 400 := by omega
    simp only [Date.toDays, if_pos hearly, hyearBack, hera, hyearOfEra, hback]
    omega

/-- Counting days forth and back. -/
theorem Date.toDays_ofDays (days : Int) : (Date.ofDays days).toDays = days := by
  obtain ⟨era, year, day, hdate, hyear, hday, -, hdays⟩ := Date.ofDays_eq_ofMarch days
  rw [hdate, Date.toDays_ofMarch era year day hyear hday]
  omega

theorem Date.inCalendar_ofMarch (year day : Int) (hday : 0 ≤ day ∧ day ≤ 365)
    (hleap : day = 365 → Time.isLeapYear (year + 1) = true) :
    (Date.ofMarch year day).InCalendar := by
  have hmonth : 0 ≤ (5 * day + 2) / 153 ∧ (5 * day + 2) / 153 ≤ 11 := by omega
  unfold Date.ofMarch Date.InCalendar
  dsimp only
  split
  · refine ⟨by dsimp only; omega, by dsimp only; omega, by dsimp only; omega, ?_⟩
    dsimp only [daysInMonth]
    split
    · omega
    · split
      next h30 => simp only [Bool.or_eq_true, decide_eq_true_eq] at h30; omega
      next h31 => simp only [Bool.or_eq_true, decide_eq_true_eq, not_or] at h31; omega
  · refine ⟨by dsimp only; omega, by dsimp only; omega, by dsimp only; omega, ?_⟩
    dsimp only [daysInMonth]
    split
    · by_cases last : day = 365
      · rw [if_pos (hleap last)]
        omega
      · split <;> omega
    · split
      next h30 => simp only [Bool.or_eq_true, decide_eq_true_eq] at h30; omega
      next => omega

/-- A date counted from days exists. -/
theorem Date.inCalendar_ofDays (days : Int) : (Date.ofDays days).InCalendar := by
  obtain ⟨era, year, day, hdate, -, hday, hleap, -⟩ := Date.ofDays_eq_ofMarch days
  rw [hdate]
  exact Date.inCalendar_ofMarch _ day hday hleap

end CatalogSearch.Time
