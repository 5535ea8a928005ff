import Stratum.Proofs.DayCount
import Stratum.Proofs.Representable
import Stratum.Report

/-!
# Times as they are shown

A time is shown down to the second, in a form in which times are read: without a zone, which is UTC,
and with as many digits as the year needs. Nothing but the fraction of a second is lost on the way.
A leap second is shown as the second 60; one that follows any but a whole minute is shown as the
second after the one to which it belongs.

> `read?_display`: what is shown of a time is read as the time without its fraction.
> `readTime_published`: the time of publication can be read off a report.
> `readTime_timeText`: reports show two times alike only if they lie in the same second.
-/

namespace Stratum

namespace Time

open Text Text.Numeral

variable {s : List Char} {t : Instant}

/-! ## The fields of an instant -/

namespace Instant

variable {t : Instant}

/-- Seconds since the start of the day, in UTC. -/
def secondOfDay (t : Instant) : Nat := (t.secs % daySeconds).toNat

/-- The second that the display shows, 60 for a leap second. -/
def shownSecond (t : Instant) : Nat := t.secondOfDay % 60 + t.nanos / secondNanos

theorem cast_secondOfDay (t : Instant) : (t.secondOfDay : Int) = t.secs % daySeconds := by
  unfold secondOfDay daySeconds
  omega

/-- A day has 86400 seconds. -/
theorem secondOfDay_lt (t : Instant) : t.secondOfDay < 86400 := by
  unfold secondOfDay daySeconds
  omega

/-- A leap second is shown as the sixtieth. -/
theorem shownSecond_of_leap (h : t.Regular) (hleap : t.isLeapSecond = true) :
    t.shownSecond = 60 := by
  have hlast := h.leap hleap
  have hlow : secondNanos ≤ t.nanos := of_decide_eq_true hleap
  have hhigh := h.nanos_lt
  have hone : t.nanos / secondNanos = 1 := by
    unfold secondNanos at *
    omega
  unfold shownSecond secondOfDay daySeconds
  omega

/-- Any other is shown by its place in the minute. -/
theorem shownSecond_of_not_leap (hleap : t.isLeapSecond = false) :
    t.shownSecond = t.secondOfDay % 60 := by
  have hhigh : ¬secondNanos ≤ t.nanos := of_decide_eq_false hleap
  unfold shownSecond
  rw [Nat.div_eq_of_lt (Nat.lt_of_not_le hhigh), Nat.add_zero]

/-- What the display says. -/
def fields (t : Instant) : Fields where
  year := t.date.year
  month := t.date.month
  day := t.date.day
  hour := t.secondOfDay / 3600
  minute := t.secondOfDay / 60 % 60
  second := t.shownSecond

/-- Its fields have the nanoseconds of a leap second and no others. -/
theorem nanos_fields (h : t.Regular) : t.fields.nanos = t.whole.nanos := by
  show (if t.shownSecond = 60 then secondNanos else 0) + 0 =
    if t.isLeapSecond then secondNanos else 0
  cases hleap : t.isLeapSecond with
  | true => rw [if_pos (shownSecond_of_leap h hleap), if_pos rfl, Nat.add_zero]
  | false =>
    have hsecond := shownSecond_of_not_leap hleap
    rw [if_neg (by omega), if_neg (by decide)]

/-- They are at the same second of the day. -/
theorem secondOfDay_fields (h : t.Regular) :
    t.fields.secondOfDay = (t.secondOfDay : Int) := by
  show ((t.secondOfDay / 3600 : Nat) : Int) * 3600 + ((t.secondOfDay / 60 % 60 : Nat) : Int) * 60 +
    ((if t.shownSecond = 60 then 59 else t.shownSecond : Nat) : Int) = t.secondOfDay
  cases hleap : t.isLeapSecond with
  | true =>
    have hlast := h.leap hleap
    have hcast := cast_secondOfDay t
    rw [if_pos (shownSecond_of_leap h hleap)]
    unfold daySeconds at hcast
    omega
  | false =>
    have hsecond := shownSecond_of_not_leap hleap
    rw [if_neg (by omega)]
    omega

theorem clockExists_fields (h : t.Regular) : t.fields.clockExists = true := by
  have hday := secondOfDay_lt t
  have hsecond : t.shownSecond ≤ 60 := by
    cases hleap : t.isLeapSecond with
    | true => rw [shownSecond_of_leap h hleap]
    | false =>
      rw [shownSecond_of_not_leap hleap]
      omega
  simp only [Fields.clockExists, Bool.and_eq_true, decide_eq_true_eq]
  simp only [fields, secondNanos, daySeconds]
  omega

/-- The fields of an instant denote it, but for the fraction of a second. -/
theorem instant?_fields (h : t.Regular) : t.fields.instant? = some t.whole := by
  have hsecs : t.date.dayNumber * daySeconds + t.fields.secondOfDay - 0 = t.secs := by
    rw [secondOfDay_fields h, cast_secondOfDay]
    unfold date
    rw [Date.dayNumber_ofDayNumber]
    unfold daySeconds
    omega
  have hwhole : (⟨t.date.dayNumber * daySeconds + t.fields.secondOfDay - 0, t.fields.nanos⟩ :
      Instant) = t.whole := by
    rw [hsecs, nanos_fields h]
    rfl
  -- The year that is written is the year of the instant.
  have hrange : t.whole.inRange = true := h.inRange
  have hyear : yearInRange t.fields.year = true := h.inRange
  unfold Fields.instant?
  rw [show Date.of? t.fields.year t.fields.month t.fields.day = some t.date from
    Date.of?_eq_some_iff.2 ⟨rfl, rfl, rfl⟩, Option.bind_some]
  show (if (_ && _ && _ && inRange ⟨t.date.dayNumber * daySeconds + t.fields.secondOfDay - 0,
    t.fields.nanos⟩) = true then some (Instant.mk _ _) else none) = some t.whole
  rw [hwhole, hyear, clockExists_fields h, hrange]
  exact congrArg some hwhole

end Instant

/-! ## The display of an instant -/

/-- Blanks in front of a field do not matter. -/
theorem Pattern.field_skipBlank (w : Nat) (s : List Char) :
    Pattern.field w (skipBlank s) = Pattern.field w s := by
  unfold Pattern.field skipBlank
  rw [List.dropWhile_idempotent]

namespace Instant

variable {t : Instant}

/-- **A time is shown** as year, month, day, hour, minute and second. -/
theorem display_eq (t : Instant) : t.display =
    yearText t.date.year ++ '-' :: (padded 2 t.date.month ++ '-' :: (padded 2 t.date.day ++ ' ' ::
      (padded 2 (t.secondOfDay / 3600) ++ ':' :: (padded 2 (t.secondOfDay / 60 % 60) ++ ':' ::
        padded 2 t.shownSecond)))) := by
  unfold display shownSecond secondOfDay
  simp only [List.append_assoc, List.cons_append]

/-- The display says nothing but the fields, in the form with a space. -/
theorem run_display (h : t.Regular) :
    Pattern.run {} t.display (Pattern.date ++ .blank :: (Pattern.clock ++ [])) =
      some (t.fields, []) := by
  have hparts := clockExists_fields h
  simp only [Fields.clockExists, Bool.and_eq_true, decide_eq_true_eq] at hparts
  obtain ⟨⟨⟨⟨⟨hhour, hminute⟩, hsecond⟩, -⟩, -⟩, -⟩ := hparts
  have hmonth := t.date.month_exists.2
  have hday := Nat.le_trans t.date.day_exists.2 (daysInMonth_le _ _)
  have htwo : ∀ {n : Nat} (rest : List Char), n ≤ 60 →
      Pattern.field 2 (padded 2 n ++ rest) = some (n, rest) := by
    intro n rest hn
    exact Pattern.field_padded (by decide) (by omega) rest
  have hlast : Pattern.field 2 (padded 2 t.shownSecond) = some (t.shownSecond, []) := by
    rw [← List.append_nil (padded 2 t.shownSecond)]
    exact htwo [] hsecond
  rw [display_eq]
  refine Pattern.run_append_eq_some_iff.2 ⟨_, _, Pattern.run_date
    (Pattern.year_yearText _ (Scan.noDigit_cons (by decide) _)) (htwo _ (by omega))
    (htwo _ (by omega)), ?_⟩
  refine Pattern.run_cons_eq_some_iff.2 ⟨_, _, rfl, ?_⟩
  refine Pattern.run_append_eq_some_iff.2 ⟨_, _, Pattern.run_clock ?_
    (htwo _ (Nat.le_of_lt hminute)) hlast, rfl⟩
  -- The blank is gone already when the hour is read.
  have hskip : ∀ r, skipBlank (' ' :: r) = skipBlank r := by
    intro r
    exact List.dropWhile_cons_of_pos (by decide)
  rw [hskip, Pattern.field_skipBlank]
  exact htwo _ (Nat.le_trans (Nat.le_of_lt hhour) (by decide))

theorem head_yearText (y : Int) : ∃ c r, yearText y = c :: r ∧ isBlank c = false := by
  have hdigits : ∃ c r, padded 4 y.natAbs = c :: r ∧ isBlank c = false := by
    cases hp : padded 4 y.natAbs with
    | nil => exact absurd (le_length_padded 4 y.natAbs) (by rw [hp]; decide)
    | cons c r =>
      have hc : c ∈ padded 4 y.natAbs := by
        rw [hp]
        exact List.mem_cons_self
      exact ⟨c, r, rfl, not_isBlank_of_isDigit (isDigit_of_mem_padded hc)⟩
  unfold yearText
  simp only
  split
  · exact ⟨'-', _, rfl, by decide⟩
  · split
    · exact ⟨'+', _, rfl, by decide⟩
    · exact hdigits

/-- No blank is taken off behind a number. -/
theorem dropEndWhile_append_padded {w : Nat} (hw : 0 < w) (s : List Char) (n : Nat) :
    dropEndWhile isBlank (s ++ padded w n) = s ++ padded w n := by
  rcases List.eq_nil_or_concat (padded w n) with hp | ⟨r, c, hp⟩
  · exact absurd (le_length_padded w n) (by rw [hp]; exact Nat.not_le_of_gt hw)
  · have hc : c ∈ padded w n := by
      rw [hp, List.concat_eq_append]
      exact List.mem_append_right r List.mem_cons_self
    rw [hp, List.concat_eq_append, ← List.append_assoc,
      dropEndWhile_append_cons (not_isBlank_of_isDigit (isDigit_of_mem_padded hc))]
    rfl

/-- The display has no blanks at its ends. -/
theorem trim_display (t : Instant) : trim t.display = t.display := by
  obtain ⟨c, r, hyear, hc⟩ := head_yearText t.date.year
  have hfront : skipBlank t.display = t.display := by
    rw [display_eq, hyear, List.cons_append]
    exact skipBlank_cons hc _
  have hback : ∃ s, t.display = s ++ padded 2 t.shownSecond := ⟨_, List.append_cons _ _ _⟩
  obtain ⟨s, hs⟩ := hback
  unfold trim
  rw [hfront, hs]
  exact dropEndWhile_append_padded (by decide) s t.shownSecond

end Instant

/-! ## Reading what is displayed -/

/-- **What is shown is read back** in whole seconds. -/
theorem Timestamp.read?_display (h : t.Regular) :
    Timestamp.read? t.display = some t.whole := by
  have hspaced : Form.spaced.read? (trim t.display) = some t.whole := by
    rw [Instant.trim_display, Form.read?_of_civil? rfl]
    exact Pattern.read?_eq_some_iff.2 ⟨_, Instant.run_display h, Instant.instant?_fields h⟩
  exact Timestamp.read?_of_form hspaced

/-- What has been read is shown so that it is read again, but for the fraction of a second. -/
theorem Timestamp.read?_display_of_read? (h : Timestamp.read? s = some t) :
    Timestamp.read? t.display = some t.whole :=
  Timestamp.read?_display (Timestamp.regular_of_read? h)

end Time

namespace Report

open Time

/-- The time of publication that a report shows is read as the seconds in the manifest. -/
theorem readTime_published {m : Manifest} {text : String} (h : publishedText m = some text) :
    ∃ n t, m.lastModified = some n ∧ t = ⟨n.toInt, 0⟩ ∧ text = timeText t ∧
      Source.readTime t.display = .ok t := by
  unfold publishedText at h
  obtain ⟨t, ht, htext⟩ := Option.map_eq_some_iff.1 h
  obtain ⟨n, hn, ht⟩ := Option.bind_eq_some_iff.1 ht
  have hread := Timestamp.read?_display (Instant.regular_of_ofSeconds? ht)
  obtain ⟨rfl, -⟩ := Instant.ofSeconds?_eq_some ht
  refine ⟨n, _, hn, rfl, htext.symm, ?_⟩
  unfold Source.readTime
  rw [hread]
  rfl

/-- **A time that is shown can be read back**, if it is no leap second or follows a whole minute:
what stands before the zone is accepted as a timestamp, and gives the time back without the fraction
of its second. Such times of different seconds are therefore never shown alike, nor is a leap second
as another second. -/
theorem readTime_timeText {t : Instant} (h : t.Representable)
    (hleap : t.isLeapSecond = true → t.secs % 60 = 59) :
    timeText t = String.ofList t.display ++ " UTC" ∧
      Source.readTime t.display =
        .ok ⟨t.secs, if t.isLeapSecond then secondNanos else 0⟩ ∧
      ∀ u : Instant, u.Representable → (u.isLeapSecond = true → u.secs % 60 = 59) →
        (t.secs ≠ u.secs ∨ t.isLeapSecond ≠ u.isLeapSecond) → timeText t ≠ timeText u := by
  have hread := Timestamp.read?_display ⟨h, hleap⟩
  refine ⟨?_, ?_, ?_⟩
  · exact String.ofList_append
  · unfold Source.readTime
    rw [hread]
    rfl
  · intro u hu huleap hdiffer hsame
    have hdisplay : t.display = u.display :=
      List.append_cancel_right (String.ofList_injective hsame)
    rw [hdisplay, Timestamp.read?_display ⟨hu, huleap⟩] at hread
    obtain ⟨hsecs, hleaps⟩ := Instant.eq_of_whole_eq (Option.some.inj hread)
    rcases hdiffer with hne | hne
    · exact hne hsecs.symm
    · exact hne hleaps.symm

/-- The leap second at the end of 2016, with half of it gone, and the second before it. -/
theorem readTime_timeText_leap :
    Instant.Representable ⟨1483228799, 1500000000⟩ ∧
      Source.readTime "2016-12-31 23:59:60".toList = .ok ⟨1483228799, 1000000000⟩ ∧
      timeText ⟨1483228799, 1500000000⟩ ≠ timeText ⟨1483228799, 500000000⟩ := by
  have hleap : Instant.Representable ⟨1483228799, 1500000000⟩ :=
    { inRange := by decide +kernel, nanos_lt := by decide }
  have hbefore : Instant.Representable ⟨1483228799, 500000000⟩ :=
    { inRange := by decide +kernel, nanos_lt := by decide }
  have hdisplay : Instant.display ⟨1483228799, 1500000000⟩ = "2016-12-31 23:59:60".toList := by
    decide +kernel
  obtain ⟨-, hread, hdiffer⟩ := readTime_timeText hleap fun _ => by decide
  rw [hdisplay] at hread
  exact ⟨hleap, hread, hdiffer _ hbefore (fun h => absurd h (by decide)) (Or.inr (by decide))⟩

/-- A leap second behind the first second of a minute is shown as the next second, and read back as
that. -/
theorem shown_as_next_second :
    Instant.Representable ⟨0, 1500000000⟩ ∧
      timeText ⟨0, 1500000000⟩ = "1970-01-01 00:00:01 UTC" ∧
      timeText ⟨1, 0⟩ = "1970-01-01 00:00:01 UTC" ∧
      Source.readTime (Instant.display ⟨0, 1500000000⟩) = .ok ⟨1, 0⟩ := by
  have hnext : Instant.Regular ⟨1, 0⟩ :=
    { inRange := by decide +kernel, nanos_lt := by decide, leap := fun h => absurd h (by decide) }
  refine ⟨{ inRange := by decide +kernel, nanos_lt := by decide }, ?_, ?_, ?_⟩
  · decide +kernel
  · decide +kernel
  · have hdisplay : Instant.display ⟨0, 1500000000⟩ = Instant.display ⟨1, 0⟩ := by decide +kernel
    unfold Source.readTime
    rw [hdisplay, Timestamp.read?_display hnext]
    rfl

end Report

end Stratum
