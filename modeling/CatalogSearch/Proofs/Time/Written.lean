import CatalogSearch.Proofs.Text.PaddedDigits
import CatalogSearch.Proofs.Text.Trimmed
import CatalogSearch.Proofs.Time.Calendar
import CatalogSearch.Time.Timestamp

/-!
# Reading what was written

How the layouts read the text of a moment in UTC. With a year of four digits the strict layout
reads every field back, apart from the digits cut off. With a year that carries a sign no layout
fits: the strict one asks for a digit in front, and no other one reads both the letter between
date and time and an offset.
-/
namespace CatalogSearch.Time

open Text (padded)

/-- A run of digits is scanned up to the first other character. -/
theorem scanDigits_append {least most : Nat} {ds rest : List Char}
    (digits : ∀ c ∈ ds, Text.isDigit c = true) (enough : least ≤ ds.length)
    (fits : ds.length ≤ most)
    (stop : ds.length < most → ∀ c ∈ rest.head?, Text.isDigit c = false) :
    scanDigits least most (ds ++ rest) = some (Text.ofDigits ds, rest) := by
  have hrun : ((ds ++ rest).take most).takeWhile Text.isDigit = ds := by
    rw [List.take_append, List.take_of_length_le fits, List.takeWhile_append_of_pos digits]
    rcases Nat.eq_or_lt_of_le fits with heq | hlt
    · simp [heq]
    · cases rest with
      | nil => simp
      | cons c tail =>
        have hc := stop hlt c rfl
        obtain ⟨more, hmore⟩ : ∃ more, most - ds.length = more + 1 :=
          ⟨most - ds.length - 1, by omega⟩
        rw [hmore, List.take_succ_cons, List.takeWhile_cons_of_neg (by simp [hc]),
          List.append_nil]
  simp only [scanDigits, hrun]
  rw [if_neg (Nat.not_lt.2 enough), List.drop_left]

theorem scanDigits_padded {width n : Nat} (pos : 0 < width) (fits : n < 10 ^ width)
    (rest : List Char) :
    scanDigits width width ((padded width n).toList ++ rest) = some (n, rest) := by
  have hlen := Text.length_padded pos fits
  rw [scanDigits_append (fun _ hc => Text.isDigit_of_mem_padded hc) (by omega) (by omega)
    (by omega), Text.ofDigits_padded]

theorem isBlank_eq_false_of_isDigit {c : Char} (h : Text.isDigit c = true) :
    Text.isBlank c = false := by
  simp only [Text.isDigit, Bool.and_eq_true, decide_eq_true_eq, Char.le_def] at h
  have lo : '0'.val.toNat ≤ c.val.toNat := h.1
  have hi : c.val.toNat ≤ '9'.val.toNat := h.2
  have hzero : '0'.val.toNat = 48 := by decide
  have hnine : '9'.val.toNat = 57 := by decide
  have hcode : c.val.toNat = c.toNat := rfl
  simp only [Text.isBlank, Bool.or_eq_false_iff, Bool.and_eq_false_iff, beq_eq_false_iff_ne,
    decide_eq_false_iff_not]
  omega

theorem isDigit_of_head?_padded {width n : Nat} {rest : List Char} :
    ∀ c ∈ ((padded width n).toList ++ rest).head?, Text.isDigit c = true := by
  intro c hc
  have hne : (padded width n).toList ≠ [] := by
    rw [Text.toList_padded]
    simp [Text.digits]
  rw [List.head?_append_of_ne_nil _ hne] at hc
  exact Text.isDigit_of_mem_padded (List.mem_of_mem_head? hc)

theorem scanField_padded {n : Nat} (fits : n < 100) (rest : List Char) :
    scanField ((padded 2 n).toList ++ rest) = some (n, rest) := by
  have hlen : (padded 2 n).toList.length = 2 := Text.length_padded (by decide) fits
  rw [scanField, Text.dropLeading_eq_self fun c hc =>
      isBlank_eq_false_of_isDigit (isDigit_of_head?_padded c hc),
    scanDigits_append (fun _ hc => Text.isDigit_of_mem_padded hc) (by omega) (by omega)
      (by omega), Text.ofDigits_padded]

/-- Digits behind a point, up to nine of them. -/
theorem scanFraction_digits {width n : Nat} (pos : 0 < width) (most : width ≤ 9)
    (fits : n < 10 ^ width) {rest : List Char} (stop : ∀ c ∈ rest.head?, Text.isDigit c = false) :
    scanFraction ('.' :: ((padded width n).toList ++ rest)) =
      some (n * 10 ^ (9 - width), rest) := by
  have hlen : (padded width n).toList.length = width := Text.length_padded pos fits
  have hrun : ((padded width n).toList ++ rest).takeWhile Text.isDigit =
      (padded width n).toList := by
    rw [List.takeWhile_append_of_pos fun _ hc => Text.isDigit_of_mem_padded hc]
    cases rest with
    | nil => simp
    | cons c tail => rw [List.takeWhile_cons_of_neg (by simp [stop c rfl]), List.append_nil]
  have hne : (padded width n).toList.isEmpty = false := by
    rw [List.isEmpty_eq_false_iff, ← List.length_pos_iff]
    omega
  have hkept : (padded width n).toList.take 9 = (padded width n).toList :=
    List.take_of_length_le (by omega)
  simp only [scanFraction, hrun, hne, hkept, Text.ofDigits_padded]
  rw [List.drop_left, hlen]
  rfl

theorem scanFraction_padded {n : Nat} (fits : n < 1000000) {rest : List Char}
    (stop : ∀ c ∈ rest.head?, Text.isDigit c = false) :
    scanFraction ('.' :: ((padded 6 n).toList ++ rest)) = some (n * 1000, rest) :=
  scanFraction_digits (by decide) (by decide) fits stop

/-- A letter is no number. -/
theorem scanField_letter (rest : List Char) : scanField ('T' :: rest) = none := by
  rw [scanField, Text.dropLeading_eq_self (by simp; decide), scanDigits, List.take_succ_cons,
    List.takeWhile_cons_of_neg (by decide)]
  rfl

theorem yearText_of_mem {year : Int} (h : 0 ≤ year ∧ year ≤ 9999) :
    yearText year = padded 4 year.toNat := if_pos h

/-- A year of other than four digits carries a sign. -/
theorem toList_yearText_of_not_mem {year : Int} (h : ¬ (0 ≤ year ∧ year ≤ 9999)) :
    (yearText year).toList =
      (if year < 0 then '-' else '+') :: (padded 4 year.natAbs).toList := by
  rw [yearText, if_neg h]
  split <;> simp

theorem scanYear_minus (rest : List Char) :
    scanYear ('-' :: rest) =
      (scanDigits 1 rest.length rest).map fun r => (-(r.1 : Int), r.2) := by
  rw [scanYear, Text.dropLeading_eq_self (by simp; decide)]
  rfl

theorem scanYear_plus (rest : List Char) :
    scanYear ('+' :: rest) =
      (scanDigits 1 rest.length rest).map fun r => ((r.1 : Int), r.2) := by
  rw [scanYear, Text.dropLeading_eq_self (by simp; decide)]
  rfl

theorem scanYear_signed {year : Int} (h : ¬ (0 ≤ year ∧ year ≤ 9999)) {rest : List Char}
    (stop : ∀ c ∈ rest.head?, Text.isDigit c = false) :
    scanYear ((yearText year).toList ++ rest) = some (year, rest) := by
  have hlen : 1 ≤ (padded 4 year.natAbs).toList.length := by
    have := Nat.length_toDigits_pos (b := 10) (n := year.natAbs)
    rw [Text.toList_padded, List.length_append]
    unfold Text.digits
    omega
  have hdigits : scanDigits 1 ((padded 4 year.natAbs).toList ++ rest).length
      ((padded 4 year.natAbs).toList ++ rest) = some (year.natAbs, rest) := by
    rw [scanDigits_append (fun _ hc => Text.isDigit_of_mem_padded hc) hlen (by simp)
      fun _ => stop, Text.ofDigits_padded]
  rw [toList_yearText_of_not_mem h]
  split
  · have hyear : -(year.natAbs : Int) = year := by omega
    rw [List.cons_append, scanYear_minus, hdigits, Option.map_some, hyear]
  · have hyear : (year.natAbs : Int) = year := by omega
    rw [List.cons_append, scanYear_plus, hdigits, Option.map_some, hyear]

/-- Every field but the year has at most as many digits as its place in the text. -/
structure Moment.Fits (m : Moment) : Prop where
  month : m.date.month < 100
  day : m.date.day < 100
  hour : m.hour < 100
  minute : m.minute < 100
  second : m.second < 100
  nanos : m.nanos < 1000000000

/-- The month and the day, with hyphens, before the rest of a text. -/
def Moment.dayChars (m : Moment) (rest : List Char) : List Char :=
  '-' :: ((padded 2 m.date.month).toList ++ ('-' :: ((padded 2 m.date.day).toList ++ rest)))

/-- The time of day with microseconds before the rest of a text. -/
def Moment.clockChars (m : Moment) (rest : List Char) : List Char :=
  (padded 2 m.hour).toList ++ (':' :: ((padded 2 m.minute).toList ++
    (':' :: ((padded 2 m.second).toList ++
      ('.' :: ((padded 6 (m.nanos / 1000)).toList ++ rest))))))

def utcOffset : List Char := ['+', '0', '0', ':', '0', '0']

theorem not_isDigit_head?_utcOffset : ∀ c ∈ utcOffset.head?, Text.isDigit c = false := by
  intro c hc
  obtain rfl : '+' = c := Option.some.inj hc
  decide

theorem Moment.toList_utcText (m : Moment) :
    m.utcText.toList = (yearText m.toUtc.date.year).toList ++
      m.toUtc.dayChars ('T' :: m.toUtc.clockChars utcOffset) := by
  simp [utcText, dayChars, clockChars, utcOffset]

theorem trimmed_utcText (m : Moment) : Text.Trimmed m.utcText.toList := by
  constructor
  · intro c hc
    rw [Moment.toList_utcText] at hc
    by_cases hyear : 0 ≤ m.toUtc.date.year ∧ m.toUtc.date.year ≤ 9999
    · rw [yearText_of_mem hyear] at hc
      exact isBlank_eq_false_of_isDigit (isDigit_of_head?_padded c hc)
    · rw [toList_yearText_of_not_mem hyear, List.cons_append, List.head?_cons,
        Option.mem_some_iff] at hc
      rw [← hc]
      split <;> decide
  · intro c hc
    have hend : "+00:00".toList = utcOffset := by decide
    rw [Moment.utcText, String.toList_append, hend,
      List.getLast?_append_of_ne_nil _ (by decide)] at hc
    rw [show c = '0' from (Option.some.inj hc).symm]
    decide

theorem scanTime_clockChars {m : Moment} (fits : m.Fits) (date : Date) :
    scanTime date (m.clockChars utcOffset) =
      some (⟨date, m.hour, m.minute, m.second, m.nanos / 1000 * 1000, 0⟩, utcOffset) := by
  have hmicros : m.nanos / 1000 < 1000000 := by
    have := fits.nanos
    omega
  simp only [scanTime, Moment.clockChars, scanField_padded fits.hour,
    scanField_padded fits.minute, scanField_padded fits.second,
    scanFraction_padded hmicros not_isDigit_head?_utcOffset, scanChar, if_true,
    Option.bind_eq_bind, Option.bind_some, Option.pure_def]

theorem scanTime_letter (date : Date) (rest : List Char) :
    scanTime date (Text.dropLeading ('T' :: rest)) = none := by
  rw [Text.dropLeading_eq_self (by simp; decide), scanTime, scanField_letter]
  rfl

/-- The strict layout reads every field of a written moment. -/
theorem readStrict_utc {u : Moment} (fits : u.Fits) {year : Nat} (four : year < 10000) :
    readStrict ((padded 4 year).toList ++ u.dayChars ('T' :: u.clockChars utcOffset)) =
      complete (some (⟨⟨year, u.date.month, u.date.day⟩, u.hour, u.minute, u.second,
        u.nanos / 1000 * 1000, 0⟩, [])) := by
  have hmicros : u.nanos / 1000 < 1000000 := by
    have := fits.nanos
    omega
  have hoffset :
      (scanZulu utcOffset).or (scanOffset (scanChar ':') false utcOffset) = some (0, []) := by
    decide
  have two {n : Nat} (h : n < 100) (rest : List Char) :
      scanDigits 2 2 ((padded 2 n).toList ++ rest) = some (n, rest) :=
    scanDigits_padded (by decide) h rest
  have hyear (rest : List Char) :
      scanDigits 4 4 ((padded 4 year).toList ++ rest) = some (year, rest) :=
    scanDigits_padded (by decide) four rest
  simp only [readStrict, Moment.dayChars, Moment.clockChars, hyear, two fits.month, two fits.day,
    two fits.hour, two fits.minute, two fits.second,
    scanFraction_padded hmicros not_isDigit_head?_utcOffset, hoffset, scanChar, if_true,
    Option.bind_eq_bind, Option.bind_some, Option.pure_def]

theorem readStrict_signed {year : Int} (h : ¬ (0 ≤ year ∧ year ≤ 9999)) (rest : List Char) :
    readStrict ((yearText year).toList ++ rest) = none := by
  have hsign : Text.isDigit (if year < 0 then '-' else '+') = false := by
    split <;> decide
  have hyear : scanDigits 4 4 ((yearText year).toList ++ rest) = none := by
    rw [toList_yearText_of_not_mem h, scanDigits, List.cons_append, List.take_succ_cons,
      List.takeWhile_cons_of_neg (by simp [hsign])]
    rfl
  simp only [readStrict, hyear, Option.bind_eq_bind, Option.bind_none]
  rfl

theorem scanDate_of_scanYear {u : Moment} (fits : u.Fits) (rest : List Char)
    (hyear : scanYear ((yearText u.date.year).toList ++ u.dayChars rest) =
      some (u.date.year, u.dayChars rest)) :
    scanDate ((yearText u.date.year).toList ++ u.dayChars rest) = some (u.date, rest) := by
  rw [scanDate, hyear]
  simp only [Moment.dayChars, scanChar, scanField_padded fits.month, scanField_padded fits.day,
    if_true, Option.bind_eq_bind, Option.bind_some, Option.pure_def]

theorem scanDate_signed {u : Moment} (fits : u.Fits)
    (h : ¬ (0 ≤ u.date.year ∧ u.date.year ≤ 9999)) (rest : List Char) :
    scanDate ((yearText u.date.year).toList ++ u.dayChars rest) = some (u.date, rest) :=
  scanDate_of_scanYear fits rest (scanYear_signed h (by simp [Moment.dayChars]; decide))

/-- No layout fits a written moment whose year carries a sign. -/
theorem readMoment_signed {u : Moment} (fits : u.Fits)
    (h : ¬ (0 ≤ u.date.year ∧ u.date.year ≤ 9999)) :
    readMoment ((yearText u.date.year).toList ++
      u.dayChars ('T' :: u.clockChars utcOffset)) = none := by
  have hstrict := readStrict_signed h (u.dayChars ('T' :: u.clockChars utcOffset))
  have hdate := scanDate_signed fits h ('T' :: u.clockChars utcOffset)
  have hletter := fun date => scanTime_letter date (u.clockChars utcOffset)
  have hclock := scanTime_clockChars fits u.date
  simp only [readMoment, List.findSome?_cons, List.findSome?_nil, hstrict, readWithOffset,
    readWithShortOffset, readJoined, readSpaced, readDate, hdate, hletter, hclock, scanChar,
    if_true, Option.bind_eq_bind, Option.bind_some, Option.bind_none, Option.pure_def]
  rfl

end CatalogSearch.Time
