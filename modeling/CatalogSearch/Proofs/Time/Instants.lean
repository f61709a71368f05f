import CatalogSearch.Proofs.Time.Layouts

/-!
# Normal forms of instants

The normal form of a text that denotes an instant is that of the instant, cut off after the
microseconds: the civil date and time in UTC that the days and seconds count to. Nothing else of
the text is left in it, and instants that differ by a microsecond have different ones.
-/
namespace CatalogSearch.Time

open Text (padded)

/-- The date and time in UTC so many seconds after the first midnight of year 0. -/
def Civil.ofSeconds (seconds : Int) : Civil where
  date := Date.ofDays (seconds / 86400 - 719528)
  hour := (seconds % 86400).toNat / 3600
  minute := (seconds % 86400).toNat / 60 % 60
  second := (seconds % 86400).toNat % 60
  inCalendar := Date.inCalendar_ofDays _
  hour_le := by omega
  minute_le := by omega
  second_le := by omega

/-- The first six digits of a fraction. -/
def Fraction.micros (f : Fraction) : Fraction where
  width := 6
  value := f.nanos / 1000
  width_le := by decide
  value_lt := by
    have := f.nanos_lt
    omega

theorem Civil.seconds_ofSeconds (seconds : Int) : (Civil.ofSeconds seconds).seconds = seconds := by
  unfold Civil.seconds
  rw [Date.number_eq (Civil.ofSeconds seconds).inCalendar]
  simp only [Civil.ofSeconds, Date.toDays_ofDays]
  omega

/-- In UTC, a moment is that of its count of seconds. -/
theorem Civil.toUtc_moment (c : Civil) (f : Fraction) (ahead : Int) :
    (c.moment f ahead).toUtc = (Civil.ofSeconds (c.seconds - ahead)).moment f 0 := by
  have common : (if (c.moment f ahead).second = 60 then 1 else 0) = 0 := by
    have second := c.second_le
    exact if_neg (show c.second ≠ 60 by omega)
  have total : c.date.toDays * 86400 + (c.hour * 3600 + c.minute * 60 + c.second : Nat) - ahead =
      c.seconds - ahead - 719528 * 86400 := by
    rw [Civil.seconds, Date.number_eq c.inCalendar]
    omega
  simp only [Moment.toUtc, common]
  simp only [Civil.moment, Civil.ofSeconds, Nat.sub_zero, Nat.add_zero, total, Moment.mk.injEq,
    and_true]
  exact ⟨congrArg Date.ofDays (by omega), by omega, by omega, by omega⟩

theorem Civil.utcText_moment (c : Civil) (f : Fraction) (ahead : Int) :
    (c.moment f ahead).utcText =
      (Civil.ofSeconds (c.seconds - ahead)).text 'T' f.micros ++ "+00:00" := by
  have fraction : f.micros.text = "." ++ padded 6 (f.nanos / 1000) := rfl
  rw [Moment.utcText, c.toUtc_moment, Civil.text, fraction]
  simp only [Civil.moment, Date.text, String.append_assoc]
  rfl

/-- Cutting an instant off at its microseconds cuts the fraction off at six digits. -/
theorem Civil.instant_micros (c : Civil) (f : Fraction) (ahead : Int) :
    (Civil.ofSeconds (c.seconds - ahead)).instant f.micros 0 = c.instant f ahead / 1000 * 1000 := by
  have nanos : f.micros.nanos = f.nanos / 1000 * 1000 := rfl
  have bound := f.nanos_lt
  rw [Civil.instant, Civil.instant, Civil.seconds_ofSeconds, nanos]
  omega

/-- No two dates and times come to the same second. -/
theorem Civil.eq_of_seconds_eq {u u' : Civil} (same : u.seconds = u'.seconds) : u = u' := by
  obtain ⟨date, hour, minute, second, h, hour_le, minute_le, second_le⟩ := u
  obtain ⟨date', hour', minute', second', h', hour_le', minute_le', second_le'⟩ := u'
  simp only [Civil.seconds] at same
  obtain rfl : date = date' := Date.eq_of_number_eq h h' (by omega)
  obtain rfl : hour = hour' := by omega
  obtain rfl : minute = minute' := by omega
  obtain rfl : second = second' := by omega
  rfl

/-- No two dates and times with six digits come to the same instant. -/
theorem Civil.eq_of_instant_eq {u u' : Civil} {g g' : Fraction} (six : g.width = 6)
    (six' : g'.width = 6) (same : u.instant g 0 = u'.instant g' 0) : u = u' ∧ g = g' := by
  have bound := g.nanos_lt
  have bound' := g'.nanos_lt
  unfold Civil.instant at same
  obtain rfl : u = u' := Civil.eq_of_seconds_eq (by omega)
  have nanos : g.nanos = g'.nanos := by omega
  obtain ⟨_, value, _, _⟩ := g
  obtain ⟨_, value', _, _⟩ := g'
  obtain rfl := six
  obtain rfl := six'
  obtain rfl : value = value' := by
    simp only [Fraction.nanos] at nanos
    omega
  exact ⟨rfl, rfl⟩

/-- An instant can be told from its text. -/
theorem Civil.instant_eq_of_text_eq {u u' : Civil} {g g' : Fraction}
    (same : u.text 'T' g ++ "+00:00" = u'.text 'T' g' ++ "+00:00") :
    u.instant g 0 = u'.instant g' 0 := by
  have ended : Ended "+00:00".toList := Ended.signChar ⟨false, 0, 0, by decide, by decide⟩ _
  have chars := congrArg String.toList same
  rw [u.toList_text, u'.toList_text] at chars
  have dates := congrArg scanDate chars
  rw [scanDate_dateChars, scanDate_dateChars] at dates
  obtain ⟨date, rest⟩ := Prod.mk.inj (Option.some.inj dates)
  have times := congrArg (scanTime u.date) (List.cons.inj rest).2
  rw [scanTime_civil u g ended, date, scanTime_civil u' g' ended] at times
  have moments := congrArg Prod.fst (Option.some.inj times)
  simp only [Civil.moment, Moment.mk.injEq] at moments
  obtain ⟨-, hour, minute, second, nanos, -⟩ := moments
  rw [Civil.instant, Civil.instant, Civil.seconds, Civil.seconds, date, hour, minute, second, nanos]

/-- The normal form of a text is that of its instant in UTC, with six digits of the fraction. -/
theorem Denotes.toUtc_text {t : String} {i : Int} (h : Denotes t i) :
    ∃ (u : Civil) (g : Fraction), g.width = 6 ∧ u.instant g 0 = i / 1000 * 1000 ∧
      toUtc t = some (u.text 'T' g ++ "+00:00") := by
  obtain ⟨c, f, ahead, rfl, normal⟩ := h.toUtc_eq
  refine ⟨Civil.ofSeconds (c.seconds - ahead), f.micros, rfl, c.instant_micros f ahead, ?_⟩
  rw [normal, c.utcText_moment]

/-- Texts of instants are brought to the date and time in UTC, with six digits of the fraction, and
two of them to the same just if they denote the same microsecond. -/
theorem toUtc_identifies_instants :
    (∀ t i, Denotes t i → ∃ (u : Civil) (g : Fraction), g.width = 6 ∧
      u.instant g 0 = i / 1000 * 1000 ∧ toUtc t = some (u.text 'T' g ++ "+00:00")) ∧
    ∀ t t' i i', Denotes t i → Denotes t' i' →
      (toUtc t = toUtc t' ↔ i / 1000 = i' / 1000) := by
  refine ⟨fun t i h => h.toUtc_text, fun t t' i i' h h' => ?_⟩
  obtain ⟨u, g, six, instant, normal⟩ := h.toUtc_text
  obtain ⟨u', g', six', instant', normal'⟩ := h'.toUtc_text
  rw [normal, normal', Option.some.injEq]
  constructor
  · intro same
    have instants := Civil.instant_eq_of_text_eq same
    omega
  · intro same
    rw [← same, ← instant] at instant'
    obtain ⟨rfl, rfl⟩ := Civil.eq_of_instant_eq six' six instant'
    rfl

/-- An hour ahead of UTC, year 0 has begun while UTC is still in the year before. -/
theorem toUtc_identifies_instants_before_year_zero :
    Denotes "0000-01-01T00:30:00.1234569+01:00" (-1799876543100) ∧
      Denotes "0000-01-01 01:00:00.123456+01:30" (-1799876544000) ∧
      toUtc "0000-01-01T00:30:00.1234569+01:00" = toUtc "0000-01-01 01:00:00.123456+01:30" ∧
      toUtc "0000-01-01 01:00:00.123456+01:30" = some "-0001-12-31T23:30:00.123456+00:00" ∧
      ∃ (u : Civil) (g : Fraction), g.width = 6 ∧ u.instant g 0 = -1799876544000 ∧
        toUtc "0000-01-01T00:30:00.1234569+01:00" = some (u.text 'T' g ++ "+00:00") := by
  have joined : Denotes "0000-01-01T00:30:00.1234569+01:00" (-1799876543100) := by
    refine Eq.mp (congrArg₂ Denotes ?_ ?_) (Denotes.joined
      ⟨⟨0, 1, 1⟩, 0, 30, 0, by decide, by decide, by decide, by decide⟩
      ⟨7, 1234569, by decide, by decide⟩ ⟨false, 1, 0, by decide, by decide⟩
      ⟨by decide, by decide⟩) <;> decide +kernel
  have spaced : Denotes "0000-01-01 01:00:00.123456+01:30" (-1799876544000) := by
    refine Eq.mp (congrArg₂ Denotes ?_ ?_) (Denotes.spaced
      ⟨⟨0, 1, 1⟩, 1, 0, 0, by decide, by decide, by decide, by decide⟩
      ⟨6, 123456, by decide, by decide⟩ ⟨false, 1, 30, by decide, by decide⟩
      ⟨by decide, by decide⟩) <;> decide +kernel
  exact ⟨joined, spaced, (toUtc_identifies_instants.2 _ _ _ _ joined spaced).2 (by decide),
    by decide +kernel, toUtc_identifies_instants.1 _ _ joined⟩

end CatalogSearch.Time
