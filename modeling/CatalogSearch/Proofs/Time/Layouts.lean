import CatalogSearch.Proofs.Time.DayNumber
import CatalogSearch.Proofs.Time.NormalForm

/-!
# Texts of instants

An instant is written as a civil date and time with a fraction and perhaps an offset. Each way of
writing it is read by one layout, and by none that is tried before that one.
-/
namespace CatalogSearch.Time

open Text (padded)

/-- A date and a time of day that exist. -/
structure Civil where
  date : Date
  hour : Nat
  minute : Nat
  second : Nat
  inCalendar : date.InCalendar
  hour_le : hour ≤ 23
  minute_le : minute ≤ 59
  second_le : second ≤ 59

/-- The digits behind the point of a second. -/
structure Fraction where
  width : Nat
  value : Nat
  width_le : width ≤ 9
  value_lt : value < 10 ^ width

/-- Whole minutes by which a zone is ahead of UTC, or behind it. -/
structure Offset where
  behind : Bool
  hours : Nat
  minutes : Nat
  hours_le : hours ≤ 23
  minutes_le : minutes ≤ 59

/-- Seconds since the first midnight of year 0. -/
def Civil.seconds (c : Civil) : Int :=
  c.date.number * 86400 + (c.hour * 3600 + c.minute * 60 + c.second : Nat)

/-- The fraction in nanoseconds. -/
def Fraction.nanos (f : Fraction) : Nat :=
  f.value * 10 ^ (9 - f.width)

def Offset.sign (o : Offset) : Int :=
  if o.behind then -1 else 1

/-- The offset in seconds. -/
def Offset.seconds (o : Offset) : Int :=
  o.sign * (o.hours * 3600 + o.minutes * 60 : Nat)

/-- The instant of a date and time in a zone so many seconds ahead of UTC, in nanoseconds since the
first midnight of year 0 in UTC. -/
def Civil.instant (c : Civil) (f : Fraction) (ahead : Int) : Int :=
  (c.seconds - ahead) * 1000000000 + f.nanos

def Fraction.none : Fraction := ⟨0, 0, by decide, by decide⟩

/-- The midnight with which a date begins. -/
def Date.midnight (date : Date) (h : date.InCalendar) : Civil :=
  ⟨date, 0, 0, 0, h, by decide, by decide, by decide⟩

/-- Year, month and day; a year outside of 0 to 9999 has a sign and at least four digits. -/
def Date.text (date : Date) : String :=
  yearText date.year ++ "-" ++ padded 2 date.month ++ "-" ++ padded 2 date.day

/-- A point and the digits, if there are any. -/
def Fraction.text (f : Fraction) : String :=
  if f.width = 0 then "" else "." ++ padded f.width f.value

/-- Date and time of day with a separator between them. -/
def Civil.text (c : Civil) (separator : Char) (f : Fraction) : String :=
  c.date.text ++ .singleton separator ++ padded 2 c.hour ++ ":" ++ padded 2 c.minute ++ ":" ++
    padded 2 c.second ++ f.text

def Offset.signChar (o : Offset) : Char :=
  if o.behind then '-' else '+'

def Offset.shortText (o : Offset) : String :=
  .singleton o.signChar ++ padded 2 o.hours

/-- The sign, the hours and the minutes. -/
def Offset.text (o : Offset) : String :=
  o.shortText ++ ":" ++ padded 2 o.minutes

/-- A date whose year has four digits. -/
def Date.FourDigits (date : Date) : Prop :=
  0 ≤ date.year ∧ date.year ≤ 9999

/-- What a text denotes, in nanoseconds since the first midnight of year 0 in UTC. Without an offset
it is a text of UTC, and a date alone stands for its midnight. -/
inductive Denotes : String → Int → Prop
  | joined (c : Civil) (f : Fraction) (o : Offset) (four : c.date.FourDigits) :
    Denotes (c.text 'T' f ++ o.text) (c.instant f o.seconds)
  | joinedUtc (c : Civil) (f : Fraction) (four : c.date.FourDigits) :
    Denotes (c.text 'T' f ++ "Z") (c.instant f 0)
  | spaced (c : Civil) (f : Fraction) (o : Offset) (four : c.date.FourDigits) :
    Denotes (c.text ' ' f ++ o.text) (c.instant f o.seconds)
  | spacedShort (c : Civil) (f : Fraction) (o : Offset) (four : c.date.FourDigits)
      (whole : o.minutes = 0) : Denotes (c.text ' ' f ++ o.shortText) (c.instant f o.seconds)
  | joinedNaive (c : Civil) (f : Fraction) (four : c.date.FourDigits) :
    Denotes (c.text 'T' f) (c.instant f 0)
  | spacedNaive (c : Civil) (f : Fraction) (four : c.date.FourDigits) :
    Denotes (c.text ' ' f) (c.instant f 0)
  | date (date : Date) (h : date.InCalendar) (four : date.FourDigits) :
    Denotes date.text ((date.midnight h).instant .none 0)

variable {c : Civil} {f : Fraction} {rest : List Char}

/-- No further digit stands in front, nor a point. -/
def Ended (rest : List Char) : Prop :=
  ∀ c ∈ rest.head?, Text.isDigit c = false ∧ c ≠ '.'

/-- The moment as it is read. -/
def Civil.moment (c : Civil) (f : Fraction) (ahead : Int) : Moment :=
  ⟨c.date, c.hour, c.minute, c.second, f.nanos, ahead⟩

def Civil.clockChars (c : Civil) (f : Fraction) (rest : List Char) : List Char :=
  (padded 2 c.hour).toList ++ (':' :: ((padded 2 c.minute).toList ++
    (':' :: ((padded 2 c.second).toList ++ (f.text.toList ++ rest)))))

def Civil.dateChars (c : Civil) (rest : List Char) : List Char :=
  (yearText c.date.year).toList ++ (c.moment .none 0).dayChars rest

theorem Civil.toList_text (c : Civil) (separator : Char) (f : Fraction) (tail : String) :
    (c.text separator f ++ tail).toList =
      c.dateChars (separator :: c.clockChars f tail.toList) := by
  simp [text, dateChars, clockChars, Moment.dayChars, Date.text, moment]

theorem Civil.toList_text_alone (c : Civil) (separator : Char) (f : Fraction) :
    (c.text separator f).toList = c.dateChars (separator :: c.clockChars f []) := by
  simpa using c.toList_text separator f ""

theorem Fraction.nanos_lt (f : Fraction) : f.nanos < 1000000000 := by
  calc
    f.nanos < 10 ^ f.width * 10 ^ (9 - f.width) :=
      Nat.mul_lt_mul_of_pos_right f.value_lt (Nat.pow_pos (by decide))
    _ = 1000000000 := by rw [← Nat.pow_add, Nat.add_sub_cancel' f.width_le]

theorem Civil.fits (c : Civil) (f : Fraction) (ahead : Int) : (c.moment f ahead).Fits := by
  obtain ⟨-, month, -, day⟩ := c.inCalendar
  have length := daysInMonth_le c.date.year c.date.month
  have hour := c.hour_le
  have minute := c.minute_le
  have second := c.second_le
  constructor <;> dsimp only [moment]
  case nanos => exact f.nanos_lt
  all_goals omega

theorem scanYear_four {year : Int} (four : 0 ≤ year ∧ year ≤ 9999) (rest : List Char) :
    scanYear ((yearText year).toList ++ rest) = some (year, rest) := by
  have first : ∀ d ∈ ((padded 4 year.toNat).toList ++ rest).head?, Text.isDigit d = true :=
    isDigit_of_head?_padded
  have length : (padded 4 year.toNat).toList.length = 4 :=
    Text.length_padded (by decide) (by omega)
  have digits : scanDigits 1 4 ((padded 4 year.toNat).toList ++ rest) =
      some (year.toNat, rest) := by
    rw [scanDigits_append (fun _ mem => Text.isDigit_of_mem_padded mem) (by omega) (by omega)
      (by omega), Text.ofDigits_padded]
  rw [yearText_of_mem four, scanYear,
    Text.dropLeading_eq_self fun c mem => isBlank_eq_false_of_isDigit (first c mem)]
  split
  next same => exact absurd (first '-' (by rw [same]; rfl)) (by decide)
  next same => exact absurd (first '+' (by rw [same]; rfl)) (by decide)
  next => rw [digits, Option.map_some, Int.toNat_of_nonneg four.1]

/-- A date is read back, whatever stands behind it. -/
theorem scanDate_dateChars (c : Civil) (rest : List Char) :
    scanDate (c.dateChars rest) = some (c.date, rest) := by
  by_cases four : 0 ≤ c.date.year ∧ c.date.year ≤ 9999
  · exact scanDate_of_scanYear (c.fits .none 0) rest (scanYear_four four _)
  · exact scanDate_signed (c.fits .none 0) four rest

theorem scanFraction_text (f : Fraction) (ended : Ended rest) :
    scanFraction (f.text.toList ++ rest) = some (f.nanos, rest) := by
  by_cases whole : f.width = 0
  · have zero : f.value = 0 := by
      have := f.value_lt
      rw [whole] at this
      omega
    rw [Fraction.text, if_pos whole, Fraction.nanos, zero, Nat.zero_mul]
    cases rest with
    | nil => rfl
    | cons c tail =>
      unfold scanFraction
      split
      next same => exact absurd (List.cons.inj same).1 (ended c rfl).2
      next => rfl
  · have point : f.text.toList = '.' :: (padded f.width f.value).toList := by
      rw [Fraction.text, if_neg whole]
      simp
    rw [point]
    exact scanFraction_digits (Nat.pos_of_ne_zero whole) f.width_le f.value_lt
      fun c mem => (ended c mem).1

theorem Civil.hour_lt (c : Civil) : c.hour < 100 := (c.fits .none 0).hour

theorem Civil.minute_lt (c : Civil) : c.minute < 100 := (c.fits .none 0).minute

theorem Civil.second_lt (c : Civil) : c.second < 100 := (c.fits .none 0).second

theorem scanTime_civil (c : Civil) (f : Fraction) (ended : Ended rest) :
    scanTime c.date (c.clockChars f rest) = some (c.moment f 0, rest) := by
  simp only [scanTime, Civil.clockChars, scanField_padded c.hour_lt, scanField_padded c.minute_lt,
    scanField_padded c.second_lt, scanFraction_text f ended, scanChar, if_true,
    Option.bind_eq_bind, Option.bind_some, Option.pure_def]
  rfl

/-- Blanks before a time of day are passed over. -/
theorem dropLeading_clockChars (c : Civil) (f : Fraction) (rest : List Char) :
    Text.dropLeading (' ' :: c.clockChars f rest) = c.clockChars f rest := by
  rw [Text.dropLeading, List.dropWhile_cons_of_pos (by decide)]
  exact Text.dropLeading_eq_self fun d mem =>
    isBlank_eq_false_of_isDigit (isDigit_of_head?_padded d mem)

variable {o : Offset}

/-- Two digits whose first is not above another digit. -/
theorem scanTwo_padded (lead : Char) (n : Nat) (digit : Text.isDigit lead = true)
    (fits : n < 10 * (Text.digitValue lead + 1)) (rest : List Char) :
    scanTwo lead ((padded 2 n).toList ++ rest) = some (n, rest) := by
  have most := Text.digitValue_le_nine digit
  have length : (padded 2 n).toList.length = 2 := Text.length_padded (by decide) (by omega)
  obtain ⟨a, b, two⟩ := List.length_eq_two.1 length
  have digits (c : Char) (mem : c ∈ [a, b]) : Text.isDigit c = true :=
    Text.isDigit_of_mem_padded (two ▸ mem)
  have first := digits a (by simp)
  have second := digits b (by simp)
  have value : 10 * Text.digitValue a + Text.digitValue b = n := by
    have value := Text.ofDigits_padded 2 n
    rw [two] at value
    simpa [Text.ofDigits] using value
  have le : a ≤ lead := by
    simp only [Text.isDigit, Bool.and_eq_true, decide_eq_true_eq, Char.le_def] at digit first ⊢
    have above : '0'.val.toNat ≤ lead.val.toNat := digit.1
    have zero : '0'.val.toNat = 48 := by decide
    have values : a.val.toNat - 48 ≤ lead.val.toNat - 48 := by
      change Text.digitValue a ≤ Text.digitValue lead
      omega
    change a.val.toNat ≤ lead.val.toNat
    omega
  rw [two]
  simp only [List.cons_append, List.nil_append, scanTwo, first, second, le, decide_true,
    Bool.and_self, if_true, Option.some.injEq, Prod.mk.injEq, and_true]
  omega

theorem scanSign_signChar (o : Offset) (rest : List Char) :
    scanSign (o.signChar :: rest) = some (o.sign, rest) := by
  unfold Offset.signChar Offset.sign
  cases o.behind <;> rfl

theorem scanZulu_signChar (o : Offset) (rest : List Char) :
    scanZulu (o.signChar :: rest) = none := by
  unfold Offset.signChar
  cases o.behind <;> rfl

theorem Offset.toList_shortText (o : Offset) :
    o.shortText.toList = o.signChar :: (padded 2 o.hours).toList := by
  simp [shortText]

theorem Offset.toList_text (o : Offset) :
    o.text.toList = o.signChar :: ((padded 2 o.hours).toList ++
      (':' :: (padded 2 o.minutes).toList)) := by
  simp [text, shortText]

theorem scanTwo_hours (o : Offset) (rest : List Char) :
    scanTwo '9' ((padded 2 o.hours).toList ++ rest) = some (o.hours, rest) := by
  have bound := o.hours_le
  have nine : Text.digitValue '9' = 9 := by decide
  exact scanTwo_padded '9' o.hours (by decide) (by omega) rest

theorem scanTwo_minutes (o : Offset) :
    scanTwo '5' (padded 2 o.minutes).toList = some (o.minutes, []) := by
  have bound := o.minutes_le
  have five : Text.digitValue '5' = 5 := by decide
  have scanned := scanTwo_padded '5' o.minutes (by decide) (by omega) []
  rwa [List.append_nil] at scanned

/-- Hours and minutes are read if the colon between them is passed over. -/
theorem scanOffset_text {between : List Char → Option (List Char)} {lack : Bool}
    (passes : between (':' :: (padded 2 o.minutes).toList) = some (padded 2 o.minutes).toList) :
    scanOffset between lack o.text.toList = some (o.seconds, []) := by
  have nonempty : (padded 2 o.minutes).toList.isEmpty = false := by
    rw [List.isEmpty_eq_false_iff, ← List.length_pos_iff, Text.length_padded (by decide)]
    · decide
    · have := o.minutes_le
      omega
  simp only [scanOffset, o.toList_text, scanSign_signChar, scanTwo_hours, passes, nonempty,
    Bool.false_and, Bool.false_eq_true, if_false, scanTwo_minutes, Option.bind_eq_bind,
    Option.bind_some, Option.pure_def, Offset.seconds]

theorem strictZone_text (o : Offset) :
    (scanZulu o.text.toList).or (scanOffset (scanChar ':') false o.text.toList) =
      some (o.seconds, []) := by
  have zulu : scanZulu o.text.toList = none := by
    rw [o.toList_text]
    exact scanZulu_signChar o _
  rw [zulu, Option.none_or, scanOffset_text]
  simp only [scanChar, if_true]

/-- Hours alone are read if the minutes may lack, and only then. -/
theorem scanOffset_shortText {between : List Char → Option (List Char)} (lack : Bool)
    (nothing : between [] = some []) :
    scanOffset between lack o.shortText.toList =
      if lack then some (o.sign * (o.hours * 3600 : Nat), []) else none := by
  have hours := scanTwo_hours o []
  have minutes : scanTwo '5' [] = none := rfl
  rw [List.append_nil] at hours
  cases lack <;>
    simp only [scanOffset, o.toList_shortText, scanSign_signChar, hours, nothing, minutes,
      List.isEmpty_nil, Bool.and_false, Bool.and_true, Bool.false_eq_true, if_false, if_true,
      Option.bind_eq_bind, Option.bind_some, Option.bind_none, Option.pure_def, Nat.zero_mul,
      Nat.add_zero]

theorem scanOffset_shortText_none {between : List Char → Option (List Char)} (lack : Bool)
    (nothing : between [] = none) : scanOffset between lack o.shortText.toList = none := by
  have hours := scanTwo_hours o []
  rw [List.append_nil] at hours
  simp only [scanOffset, o.toList_shortText, scanSign_signChar, hours, nothing,
    Option.bind_eq_bind, Option.bind_some, Option.bind_none]

theorem scanDigits_year (four : c.date.FourDigits) (rest : List Char) :
    scanDigits 4 4 ((yearText c.date.year).toList ++ rest) = some (c.date.year.toNat, rest) := by
  obtain ⟨first, last⟩ := four
  rw [yearText_of_mem ⟨first, last⟩]
  exact scanDigits_padded (by decide) (by omega) rest

theorem scanDigits_two {n : Nat} (fits : n < 100) (rest : List Char) :
    scanDigits 2 2 ((padded 2 n).toList ++ rest) = some (n, rest) :=
  scanDigits_padded (by decide) fits rest

/-- The strict layout takes a letter or a blank between date and time. -/
theorem readStrict_dateChars {separator : Char} (apart : separator = 'T' ∨ separator = ' ')
    (four : c.date.FourDigits) (ended : Ended rest) :
    readStrict (c.dateChars (separator :: c.clockChars f rest)) =
      complete (((scanZulu rest).or (scanOffset (scanChar ':') false rest)).map fun r =>
        (c.moment f r.1, r.2)) := by
  have fits := c.fits .none 0
  have back : (c.date.year.toNat : Int) = c.date.year := Int.toNat_of_nonneg four.1
  rcases apart with rfl | rfl <;>
    simp only [readStrict, Civil.dateChars, Moment.dayChars, Civil.clockChars,
      scanDigits_year four, scanDigits_two fits.month, scanDigits_two fits.day,
      scanDigits_two c.hour_lt, scanDigits_two c.minute_lt, scanDigits_two c.second_lt,
      scanFraction_text f ended, scanChar, if_true, Option.bind_eq_bind, Option.bind_some,
      Option.pure_def, back] <;>
    cases (scanZulu rest).or (scanOffset (scanChar ':') false rest) <;> rfl

theorem readWithOffset_dateChars (ended : Ended rest) :
    readWithOffset (c.dateChars (' ' :: c.clockChars f rest)) =
      complete ((scanOffset passColonsAndBlanks false (Text.dropLeading rest)).map fun r =>
        (c.moment f r.1, r.2)) := by
  simp only [readWithOffset, scanDate_dateChars, dropLeading_clockChars, scanTime_civil c f ended,
    Option.bind_eq_bind, Option.bind_some, Option.pure_def]
  cases scanOffset passColonsAndBlanks false (Text.dropLeading rest) <;> rfl

theorem readWithShortOffset_dateChars (ended : Ended rest) :
    readWithShortOffset (c.dateChars (' ' :: c.clockChars f rest)) =
      complete (((scanZulu (Text.dropLeading rest)).or
        (scanOffset passColonsAndBlanks true (Text.dropLeading rest))).map fun r =>
          (c.moment f r.1, r.2)) := by
  simp only [readWithShortOffset, scanDate_dateChars, dropLeading_clockChars,
    scanTime_civil c f ended, Option.bind_eq_bind, Option.bind_some, Option.pure_def]
  cases (scanZulu (Text.dropLeading rest)).or
    (scanOffset passColonsAndBlanks true (Text.dropLeading rest)) <;> rfl

theorem readJoined_dateChars (ended : Ended rest) :
    readJoined (c.dateChars ('T' :: c.clockChars f rest)) =
      complete (some (c.moment f 0, rest)) := by
  simp only [readJoined, scanDate_dateChars, scanChar, if_true, scanTime_civil c f ended,
    Option.bind_eq_bind, Option.bind_some]

theorem readSpaced_dateChars (ended : Ended rest) :
    readSpaced (c.dateChars (' ' :: c.clockChars f rest)) =
      complete (some (c.moment f 0, rest)) := by
  simp only [readSpaced, scanDate_dateChars, dropLeading_clockChars, scanTime_civil c f ended,
    Option.bind_eq_bind, Option.bind_some]

/-- A date with a letter behind it is none for the layouts that want blanks there. -/
theorem readWith_letter (c : Civil) (rest : List Char) :
    readWithOffset (c.dateChars ('T' :: rest)) = none ∧
      readWithShortOffset (c.dateChars ('T' :: rest)) = none := by
  constructor <;>
    simp only [readWithOffset, readWithShortOffset, scanDate_dateChars, scanTime_letter,
      Option.bind_eq_bind, Option.bind_some, Option.bind_none] <;>
    rfl

theorem Ended.nil : Ended [] := by
  rintro _ ⟨⟩

theorem Ended.signChar (o : Offset) (rest : List Char) : Ended (o.signChar :: rest) := by
  intro c mem
  obtain rfl : o.signChar = c := Option.some.inj mem
  unfold Offset.signChar
  cases o.behind <;> decide

theorem Ended.text (o : Offset) : Ended o.text.toList := by
  rw [o.toList_text]
  exact .signChar o _

theorem Ended.shortText (o : Offset) : Ended o.shortText.toList := by
  rw [o.toList_shortText]
  exact .signChar o _

theorem Ended.zulu : Ended ['Z'] := by
  intro c mem
  obtain rfl : 'Z' = c := Option.some.inj mem
  decide

theorem Offset.seconds_range (o : Offset) : -86400 < o.seconds ∧ o.seconds < 86400 := by
  have hours := o.hours_le
  have minutes := o.minutes_le
  unfold Offset.seconds Offset.sign
  cases o.behind <;> simp <;> omega

/-- Years that are less than a day from one of four digits are in range. -/
theorem Date.year_ofDays {days : Int} (first : -719529 ≤ days) (last : days ≤ 2932897) :
    firstYear ≤ (Date.ofDays days).year ∧ (Date.ofDays days).year ≤ lastYear := by
  have back := Date.toDays_ofDays days
  obtain ⟨month, month', day, day'⟩ := Date.inCalendar_ofDays days
  have length := daysInMonth_le (Date.ofDays days).year (Date.ofDays days).month
  generalize Date.ofDays days = date at *
  unfold Date.toDays at back
  unfold firstYear lastYear
  dsimp only at back
  split at back <;> omega

theorem Date.toDays_of_fourDigits {date : Date} (h : date.InCalendar) (four : date.FourDigits) :
    -719528 ≤ date.toDays ∧ date.toDays ≤ 2932896 := by
  obtain ⟨firstMonth, lastMonth, firstDay, lastDay⟩ := h
  have length := daysInMonth_le date.year date.month
  obtain ⟨first, last⟩ := four
  unfold Date.toDays
  dsimp only
  split <;> omega

/-- A date and time with four digits of the year is valid in every zone. -/
theorem Civil.isValid_moment (c : Civil) (f : Fraction) (four : c.date.FourDigits) {ahead : Int}
    (range : -86400 < ahead ∧ ahead < 86400) : (c.moment f ahead).isValid = true := by
  obtain ⟨firstMonth, lastMonth, firstDay, lastDay⟩ := c.inCalendar
  have length := daysInMonth_le c.date.year c.date.month
  obtain ⟨first, last⟩ := four
  have hour := c.hour_le
  have minute := c.minute_le
  have second := c.second_le
  obtain ⟨lower, upper⟩ := Date.toDays_of_fourDigits c.inCalendar ⟨first, last⟩
  have utc : firstYear ≤ (c.moment f ahead).toUtc.date.year ∧
      (c.moment f ahead).toUtc.date.year ≤ lastYear := by
    refine Date.year_ofDays ?_ ?_ <;> dsimp only [Civil.moment] <;> omega
  have date : c.date.isValid = true := by
    unfold Date.isValid firstYear lastYear
    simp only [Bool.and_eq_true, decide_eq_true_eq]
    omega
  unfold Moment.isValid
  simp only [Bool.and_eq_true, decide_eq_true_eq]
  exact ⟨⟨⟨⟨⟨⟨⟨date, hour⟩, minute⟩, Nat.le_succ_of_le second⟩, range.1⟩, range.2⟩, utc.1⟩, utc.2⟩

theorem readMoment_strict {separator : Char} (apart : separator = 'T' ∨ separator = ' ')
    (four : c.date.FourDigits) (ended : Ended rest) {ahead : Int}
    (zone : (scanZulu rest).or (scanOffset (scanChar ':') false rest) = some (ahead, []))
    (range : -86400 < ahead ∧ ahead < 86400) :
    readMoment (c.dateChars (separator :: c.clockChars f rest)) = some (c.moment f ahead) := by
  have strict := readStrict_dateChars (f := f) apart four ended
  rw [zone, Option.map_some, complete, if_pos (c.isValid_moment f four range)] at strict
  rw [readMoment, List.findSome?_cons, strict]

theorem readMoment_short (four : c.date.FourDigits) (whole : o.minutes = 0) :
    readMoment (c.dateChars (' ' :: c.clockChars f o.shortText.toList)) =
      some (c.moment f o.seconds) := by
  have ended := Ended.shortText o
  have kept : Text.dropLeading o.shortText.toList = o.shortText.toList := by
    rw [o.toList_shortText]
    refine Text.dropLeading_eq_self fun c mem => ?_
    obtain rfl : o.signChar = c := Option.some.inj mem
    unfold Offset.signChar
    cases o.behind <;> decide
  have zulu : scanZulu o.shortText.toList = none := by
    rw [o.toList_shortText]
    exact scanZulu_signChar o _
  have seconds : o.sign * (o.hours * 3600 : Nat) = o.seconds := by
    rw [Offset.seconds, whole, Nat.zero_mul, Nat.add_zero]
  have nothing : passColonsAndBlanks [] = some [] := rfl
  have strict := readStrict_dateChars (f := f) (.inr rfl) four ended
  have withOffset := readWithOffset_dateChars (c := c) (f := f) ended
  have withShortOffset := readWithShortOffset_dateChars (c := c) (f := f) ended
  -- The strict layout misses the colon, the next one the minutes.
  rw [zulu, Option.none_or, scanOffset_shortText_none false rfl] at strict
  rw [kept, scanOffset_shortText false nothing] at withOffset
  rw [kept, zulu, Option.none_or, scanOffset_shortText true nothing, if_pos rfl, seconds,
    Option.map_some, complete, if_pos (c.isValid_moment f four o.seconds_range)] at withShortOffset
  simp only [readMoment, List.findSome?_cons, strict, withOffset, withShortOffset]
  rfl

theorem readMoment_joinedNaive (f : Fraction) (four : c.date.FourDigits) :
    readMoment (c.dateChars ('T' :: c.clockChars f [])) = some (c.moment f 0) := by
  have strict := readStrict_dateChars (f := f) (.inl rfl) four .nil
  have joined := readJoined_dateChars (c := c) (f := f) .nil
  obtain ⟨withOffset, withShortOffset⟩ := readWith_letter c (c.clockChars f [])
  rw [complete, if_pos (c.isValid_moment f four (by decide))] at joined
  simp only [readMoment, List.findSome?_cons, strict, withOffset, withShortOffset, joined]
  rfl

theorem readMoment_spacedNaive (f : Fraction) (four : c.date.FourDigits) :
    readMoment (c.dateChars (' ' :: c.clockChars f [])) = some (c.moment f 0) := by
  have strict := readStrict_dateChars (f := f) (.inr rfl) four .nil
  have withOffset := readWithOffset_dateChars (c := c) (f := f) .nil
  have withShortOffset := readWithShortOffset_dateChars (c := c) (f := f) .nil
  have joined : readJoined (c.dateChars (' ' :: c.clockChars f [])) = none := by
    simp only [readJoined, scanDate_dateChars, Option.bind_eq_bind, Option.bind_some]
    rfl
  have spaced := readSpaced_dateChars (c := c) (f := f) .nil
  rw [complete, if_pos (c.isValid_moment f four (by decide))] at spaced
  simp only [readMoment, List.findSome?_cons, strict, withOffset, withShortOffset, joined, spaced]
  rfl

theorem readMoment_date {date : Date} (h : date.InCalendar) (four : date.FourDigits) :
    readMoment ((date.midnight h).dateChars []) =
      some ((date.midnight h).moment .none 0) := by
  have fits := (date.midnight h).fits .none 0
  have strict : readStrict ((date.midnight h).dateChars []) = none := by
    simp only [readStrict, Civil.dateChars, Moment.dayChars,
      scanDigits_year (c := date.midnight h) four, scanDigits_two fits.month,
      scanDigits_two fits.day, scanChar, if_true, Option.bind_eq_bind, Option.bind_some]
    rfl
  have others : readWithOffset ((date.midnight h).dateChars []) = none ∧
      readWithShortOffset ((date.midnight h).dateChars []) = none ∧
      readJoined ((date.midnight h).dateChars []) = none ∧
      readSpaced ((date.midnight h).dateChars []) = none := by
    have time (date : Date) : scanTime date [] = none := rfl
    refine ⟨?_, ?_, ?_, ?_⟩ <;>
      simp only [readWithOffset, readWithShortOffset, readJoined, readSpaced, scanDate_dateChars,
        scanChar, Text.dropLeading, List.dropWhile_nil, time, Option.bind_eq_bind,
        Option.bind_some, Option.bind_none] <;>
      rfl
  have alone : readDate ((date.midnight h).dateChars []) =
      complete (some ((date.midnight h).moment .none 0, [])) := by
    have midnight : (date.midnight h).moment .none 0 = ⟨date, 0, 0, 0, 0, 0⟩ := by
      simp [Civil.moment, Date.midnight, Fraction.none, Fraction.nanos]
    simp only [readDate, scanDate_dateChars, Option.bind_eq_bind, Option.bind_some,
      Option.pure_def, midnight]
    rfl
  obtain ⟨withOffset, withShortOffset, joined, spaced⟩ := others
  rw [complete, if_pos ((date.midnight h).isValid_moment .none four (by decide))] at alone
  simp only [readMoment, List.findSome?_cons, strict, withOffset, withShortOffset, joined, spaced,
    alone]

/-- A text that does not end with a blank. -/
def Closed (t : String) : Prop :=
  ∀ c ∈ t.toList.getLast?, Text.isBlank c = false

theorem closed_padded (t : String) (width n : Nat) : Closed (t ++ padded width n) := by
  intro c mem
  have nonempty : (padded width n).toList ≠ [] := by
    rw [Text.toList_padded]
    simp [Text.digits]
  rw [String.toList_append, List.getLast?_append_of_ne_nil _ nonempty] at mem
  exact isBlank_eq_false_of_isDigit (Text.isDigit_of_mem_padded (List.mem_of_getLast? mem))

theorem closed_text (c : Civil) (separator : Char) (f : Fraction) :
    Closed (c.text separator f) := by
  unfold Civil.text Fraction.text
  split
  · rw [String.append_empty]
    exact closed_padded _ 2 c.second
  · rw [← String.append_assoc]
    exact closed_padded _ f.width f.value

theorem closed_offset (t : String) (o : Offset) :
    Closed (t ++ o.text) ∧ Closed (t ++ o.shortText) := by
  unfold Offset.text Offset.shortText
  constructor
  · rw [← String.append_assoc]
    exact closed_padded _ 2 o.minutes
  · rw [← String.append_assoc]
    exact closed_padded _ 2 o.hours

theorem closed_zulu (t : String) : Closed (t ++ "Z") := by
  intro c mem
  rw [String.toList_append, List.getLast?_append_of_ne_nil _ (by decide)] at mem
  obtain rfl : 'Z' = c := Option.some.inj mem
  decide

/-- How a text of a date with four digits is brought to its normal form. -/
theorem toUtc_dateChars {t : String} {m : Moment} (four : c.date.FourDigits)
    (chars : t.toList = c.dateChars rest) (closed : Closed t)
    (read : readMoment (c.dateChars rest) = some m) : toUtc t = some m.utcText := by
  have first : ∀ d ∈ (c.dateChars rest).head?, Text.isBlank d = false := by
    intro d mem
    rw [Civil.dateChars, yearText_of_mem four] at mem
    exact isBlank_eq_false_of_isDigit (isDigit_of_head?_padded d mem)
  have nonempty : c.dateChars rest ≠ [] := by
    simp [Civil.dateChars, Moment.dayChars]
  have last := closed
  rw [Closed, chars] at last
  have normal := toUtc_of_trimmed ⟨first, last⟩ nonempty
  rwa [read, ← chars, String.ofList_toList] at normal

/-- What a text denotes is what is read in it. -/
theorem Denotes.toUtc_eq {t : String} {i : Int} (h : Denotes t i) :
    ∃ (c : Civil) (f : Fraction) (ahead : Int),
      i = c.instant f ahead ∧ toUtc t = some (c.moment f ahead).utcText := by
  cases h with
  | joined c f o four =>
    exact ⟨c, f, o.seconds, rfl, toUtc_dateChars four (c.toList_text 'T' f o.text)
      (closed_offset _ o).1
      (readMoment_strict (.inl rfl) four (.text o) (strictZone_text o) o.seconds_range)⟩
  | joinedUtc c f four =>
    exact ⟨c, f, 0, rfl, toUtc_dateChars four (c.toList_text 'T' f "Z") (closed_zulu _)
      (readMoment_strict (.inl rfl) four .zulu rfl (by decide))⟩
  | spaced c f o four =>
    exact ⟨c, f, o.seconds, rfl, toUtc_dateChars four (c.toList_text ' ' f o.text)
      (closed_offset _ o).1
      (readMoment_strict (.inr rfl) four (.text o) (strictZone_text o) o.seconds_range)⟩
  | spacedShort c f o four whole =>
    exact ⟨c, f, o.seconds, rfl, toUtc_dateChars four (c.toList_text ' ' f o.shortText)
      (closed_offset _ o).2 (readMoment_short four whole)⟩
  | joinedNaive c f four =>
    exact ⟨c, f, 0, rfl, toUtc_dateChars four (c.toList_text_alone 'T' f)
      (closed_text c 'T' f) (readMoment_joinedNaive f four)⟩
  | spacedNaive c f four =>
    exact ⟨c, f, 0, rfl, toUtc_dateChars four (c.toList_text_alone ' ' f)
      (closed_text c ' ' f) (readMoment_spacedNaive f four)⟩
  | date date h four =>
    have chars : date.text.toList = (date.midnight h).dateChars [] := by
      simp [Date.text, Civil.dateChars, Moment.dayChars, Civil.moment, Date.midnight]
    have closed : Closed date.text := closed_padded _ 2 date.day
    have read := readMoment_date h four
    exact ⟨date.midnight h, .none, 0, rfl, toUtc_dateChars (c := date.midnight h) four chars
      closed read⟩

end CatalogSearch.Time
