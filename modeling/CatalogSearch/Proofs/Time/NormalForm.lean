import CatalogSearch.Proofs.Time.Written

/-!
# The normal form of a timestamp

Bringing a timestamp to its normal form twice is bringing it there once. A moment in UTC is its
own moment in UTC, with leap second and all; its text is read back as that moment, or, when the
year carries a sign, is read in no layout and so stands for itself.
-/
namespace CatalogSearch.Time

/-- Every moment that is found has less than a second of nanoseconds. -/
def FractionBounded (found : Option (Moment × List Char)) : Prop :=
  ∀ m rest, found = some (m, rest) → m.nanos < 1000000000

theorem FractionBounded.bind {α : Type} {o : Option α} {f : α → Option (Moment × List Char)}
    (h : ∀ a, o = some a → FractionBounded (f a)) : FractionBounded (o >>= f) := by
  cases o with
  | none => exact fun _ _ hfound => by cases hfound
  | some a => exact h a rfl

theorem FractionBounded.some {m : Moment} (rest : List Char) (h : m.nanos < 1000000000) :
    FractionBounded (some (m, rest)) := by
  intro _ _ hfound
  cases hfound
  exact h

theorem scanFraction_lt {s rest : List Char} {n : Nat} (h : scanFraction s = some (n, rest)) :
    n < 1000000000 := by
  unfold scanFraction at h
  split at h
  next tail =>
    dsimp only at h
    split at h
    · cases h
    · simp only [Option.some.injEq, Prod.mk.injEq] at h
      obtain ⟨rfl, -⟩ := h
      generalize hkept : (tail.takeWhile Text.isDigit).take 9 = kept
      have hdigits : ∀ c ∈ kept, Text.isDigit c = true := fun c hc =>
        List.all_eq_true.1 List.all_takeWhile c (List.mem_of_mem_take (hkept ▸ hc))
      have hlen : kept.length ≤ 9 := hkept ▸ List.length_take_le _ _
      calc
        Text.ofDigits kept * tenTo (9 - kept.length)
          < 10 ^ kept.length * 10 ^ (9 - kept.length) :=
            Nat.mul_lt_mul_of_pos_right (Text.ofDigits_lt _ hdigits) (Nat.pow_pos (by decide))
        _ = 1000000000 := by rw [← Nat.pow_add, Nat.add_sub_cancel' hlen]
  · cases h
    decide

theorem scanTime_bounded (date : Date) (s : List Char) : FractionBounded (scanTime date s) :=
  .bind fun _ _ => .bind fun _ _ => .bind fun _ _ => .bind fun _ _ => .bind fun _ _ =>
    .bind fun fraction hfraction => .some fraction.2 (scanFraction_lt hfraction)

theorem nanos_lt_of_complete {found : Option (Moment × List Char)} {m : Moment}
    (bounded : FractionBounded found) (h : complete found = some m) : m.nanos < 1000000000 := by
  unfold complete at h
  split at h
  · split at h
    · cases h
      exact bounded _ _ rfl
    · cases h
  · cases h

theorem nanos_lt_of_readStrict {s : List Char} {m : Moment} (h : readStrict s = some m) :
    m.nanos < 1000000000 := by
  have clock (date : Date) (s : List Char) : FractionBounded (do
      let hour ← scanDigits 2 2 s
      let s ← scanChar ':' hour.2
      let minute ← scanDigits 2 2 s
      let s ← scanChar ':' minute.2
      let second ← scanDigits 2 2 s
      let fraction ← scanFraction second.2
      let offset ← (scanZulu fraction.2).or (scanOffset (scanChar ':') false fraction.2)
      return (⟨date, hour.1, minute.1, second.1, fraction.1, offset.1⟩, offset.2)) :=
    .bind fun _ _ => .bind fun _ _ => .bind fun _ _ => .bind fun _ _ => .bind fun _ _ =>
      .bind fun fraction hfraction => .bind fun offset _ =>
        .some offset.2 (scanFraction_lt hfraction)
  refine nanos_lt_of_complete (.bind fun _ _ => .bind fun _ _ => .bind fun _ _ =>
    .bind fun _ _ => .bind fun _ _ => ?_) h
  dsimp only
  split
  · exact .bind fun s _ => clock _ s
  · exact .bind fun s _ => clock _ s
  · exact .bind fun s _ => clock _ s
  · exact fun _ _ hfound => by cases hfound

theorem nanos_lt_of_readMoment {s : List Char} {m : Moment} (h : readMoment s = some m) :
    m.nanos < 1000000000 := by
  obtain ⟨layout, hlayout, hread⟩ := List.exists_of_findSome?_eq_some h
  simp only [List.mem_cons, List.not_mem_nil, or_false] at hlayout
  rcases hlayout with rfl | rfl | rfl | rfl | rfl | rfl
  · exact nanos_lt_of_readStrict hread
  · refine nanos_lt_of_complete (.bind fun date _ => .bind fun time htime =>
      .bind fun offset _ => .some offset.2 ?_) hread
    exact scanTime_bounded date.1 _ time.1 time.2 htime
  · refine nanos_lt_of_complete (.bind fun date _ => .bind fun time htime =>
      .bind fun offset _ => .some offset.2 ?_) hread
    exact scanTime_bounded date.1 _ time.1 time.2 htime
  · exact nanos_lt_of_complete
      (.bind fun date _ => .bind fun _ _ => scanTime_bounded date.1 _) hread
  · exact nanos_lt_of_complete (.bind fun date _ => scanTime_bounded date.1 _) hread
  · exact nanos_lt_of_complete (.bind fun date _ => .some date.2 (Nat.succ_pos _)) hread

/-- The clock of a moment in UTC is in range; only a leap second is second 60. -/
theorem Moment.clock_toUtc (m : Moment) :
    m.toUtc.hour ≤ 23 ∧ m.toUtc.minute ≤ 59 ∧ m.toUtc.second ≤ 60 ∧ m.toUtc.offset = 0 := by
  have hleap : (if m.second = 60 then 1 else 0) ≤ 1 := by split <;> omega
  refine ⟨?_, ?_, ?_, rfl⟩ <;> simp only [Moment.toUtc] <;> omega

theorem daysInMonth_le (year : Int) (month : Nat) : daysInMonth year month ≤ 31 := by
  unfold daysInMonth
  split
  · split <;> omega
  · split <;> omega

theorem Moment.fits_toUtc {m : Moment} (bounded : m.nanos < 1000000000) : m.toUtc.Fits := by
  obtain ⟨-, hmonth, -, hday⟩ : m.toUtc.date.InCalendar := Date.inCalendar_ofDays _
  have hlength := daysInMonth_le m.toUtc.date.year m.toUtc.date.month
  obtain ⟨hhour, hminute, hsecond, -⟩ := m.clock_toUtc
  exact ⟨by omega, by omega, by omega, by omega, by omega, bounded⟩

/-- A moment in UTC stays as it is, whatever becomes of its fraction. -/
theorem Moment.toUtc_toUtc (m : Moment) (nanos : Nat) :
    Moment.toUtc { m.toUtc with nanos := nanos } = { m.toUtc with nanos := nanos } := by
  obtain ⟨leap, hle, hleap⟩ : ∃ leap ≤ 1, (if m.second = 60 then 1 else 0) = leap :=
    ⟨_, by split <;> omega, rfl⟩
  simp only [Moment.toUtc, Date.toDays_ofDays, Moment.mk.injEq, hleap]
  generalize m.date.toDays * 86400 +
    (m.hour * 3600 + m.minute * 60 + (m.second - leap) : Nat) - m.offset = total
  -- Second 60 is second 59 with the leap; any other second lies before the end of its minute.
  split
  · exact ⟨congrArg Date.ofDays (by omega), by omega, by omega, by omega, trivial, trivial⟩
  · exact ⟨congrArg Date.ofDays (by omega), by omega, by omega, by omega, trivial, trivial⟩

theorem Moment.isValid_toUtc {m : Moment}
    (hyear : 0 ≤ m.toUtc.date.year ∧ m.toUtc.date.year ≤ 9999) (nanos : Nat) :
    Moment.isValid { m.toUtc with nanos := nanos } = true := by
  obtain ⟨hmonth, hmonthLast, hday, hdayLast⟩ : m.toUtc.date.InCalendar :=
    Date.inCalendar_ofDays _
  obtain ⟨hhour, hminute, hsecond, hoffset⟩ := m.clock_toUtc
  have hlow : firstYear ≤ m.toUtc.date.year := by
    unfold firstYear
    omega
  have hhigh : m.toUtc.date.year ≤ lastYear := by
    unfold lastYear
    omega
  simp only [Moment.isValid, Moment.toUtc_toUtc, Date.isValid, Bool.and_eq_true,
    decide_eq_true_eq]
  omega

/-- The digits cut off do not show in the text. -/
theorem Moment.utcText_toUtc (m : Moment) :
    Moment.utcText { m.toUtc with nanos := m.nanos / 1000 * 1000 } = m.utcText := by
  have hmicros : m.nanos / 1000 * 1000 / 1000 = m.nanos / 1000 := by omega
  have hnanos : m.toUtc.nanos = m.nanos := rfl
  simp only [Moment.utcText, Moment.toUtc_toUtc, hmicros, hnanos]

/-- The text of a moment is read as that moment, or in no layout at all. -/
theorem readMoment_utcText {m : Moment} (bounded : m.nanos < 1000000000) :
    readMoment m.utcText.toList =
      if 0 ≤ m.toUtc.date.year ∧ m.toUtc.date.year ≤ 9999 then
        some { m.toUtc with nanos := m.nanos / 1000 * 1000 }
      else none := by
  have fits := Moment.fits_toUtc bounded
  rw [Moment.toList_utcText]
  split
  next hyear =>
    have hnat : ((m.toUtc.date.year.toNat : Nat) : Int) = m.toUtc.date.year := by omega
    have hstrict : readStrict ((yearText m.toUtc.date.year).toList ++
        m.toUtc.dayChars ('T' :: m.toUtc.clockChars utcOffset)) =
          some { m.toUtc with nanos := m.nanos / 1000 * 1000 } := by
      rw [yearText_of_mem hyear, readStrict_utc fits (by omega), hnat]
      exact if_pos (Moment.isValid_toUtc hyear _)
    rw [readMoment, List.findSome?_cons, hstrict]
  next hyear => exact readMoment_signed fits hyear

theorem toUtc_of_trimmed {s : List Char} (trimmed : Text.Trimmed s) (hne : s ≠ []) :
    toUtc (String.ofList s) = match readMoment s with
      | some m => some m.utcText
      | none => some (String.ofList s) := by
  unfold toUtc
  dsimp only
  rw [String.toList_ofList, Text.trimChars_eq_self trimmed]
  split
  · next hempty => exact absurd (List.isEmpty_iff.1 hempty) hne
  · cases readMoment s <;> rfl

theorem utcText_ne_absent (m : Moment) : m.utcText ≠ absent := by
  intro h
  have hne : m.utcText.toList ≠ [] := by simp [Moment.toList_utcText, Moment.dayChars]
  exact hne (by rw [h]; rfl)

theorem toUtc_utcText {m : Moment} (bounded : m.nanos < 1000000000) :
    toUtc m.utcText = some m.utcText := by
  have hread := readMoment_utcText bounded
  have htext := toUtc_of_trimmed (trimmed_utcText m)
    (by simp [Moment.toList_utcText, Moment.dayChars])
  rw [String.ofList_toList, hread] at htext
  rw [htext]
  by_cases hyear : 0 ≤ m.toUtc.date.year ∧ m.toUtc.date.year ≤ 9999
  · rw [if_pos hyear]
    exact congrArg some m.utcText_toUtc
  · rw [if_neg hyear]

/-- A normal form is that of no absent timestamp, and it is its own normal form. -/
theorem toUtc_normal {raw s : String} (h : toUtc raw = some s) :
    s ≠ absent ∧ toUtc s = some s := by
  unfold toUtc at h
  dsimp only at h
  split at h
  · cases h
  next hempty =>
    have hne : Text.trimChars raw.toList ≠ [] := by simpa using hempty
    split at h
    next m hread =>
      obtain rfl := Option.some.inj h
      exact ⟨utcText_ne_absent m, toUtc_utcText (nanos_lt_of_readMoment hread)⟩
    next hread =>
      obtain rfl := Option.some.inj h
      refine ⟨fun habsent => hne (by simpa [absent] using congrArg String.toList habsent), ?_⟩
      rw [toUtc_of_trimmed (Text.trimmed_trimChars _) hne, hread]

/-- A timestamp and its normal form compare as equal. -/
theorem normalize_bind_toUtc (raw : Option String) :
    normalize (raw.bind toUtc) = normalize raw := by
  cases raw with
  | none => rfl
  | some text =>
    cases h : toUtc text with
    | none => simp [normalize, h]
    | some s => simp [normalize, h, (toUtc_normal h).2]

end CatalogSearch.Time
