import Stratum.Time.Calendar
import Stratum.Text.Numeral

/-!
# Instants and the fields they are read from

An instant counts whole seconds from 1970-01-01 00:00:00 UTC, and nanoseconds on top of
them. A leap second is the second before it with a thousand million nanoseconds or more.
`Fields` is what the different spellings of a time have in common once they are read;
`Fields.instant?` is the one place where it is decided whether such a time exists.

> `instant?_secs`: an accepted reading denotes its civil seconds minus its offset.
-/

namespace Stratum.Time

/-- A point in time. -/
structure Instant where
  secs : Int
  nanos : Nat
deriving DecidableEq, Repr

/-- The seconds of a day. -/
def daySeconds : Int := 86400

/-- The nanoseconds of a second. -/
def secondNanos : Nat := 1000000000

/-- The years in which an instant can lie. -/
def yearInRange (y : Int) : Bool := -262143 ≤ y && y ≤ 262142

namespace Instant

/-- 1970-01-01 00:00:00 UTC, the time that stands for "never". -/
def epoch : Instant := ⟨0, 0⟩

/-- The UTC date of an instant. -/
def date (t : Instant) : Date := Date.ofDayNumber (t.secs / daySeconds)

/-- Whether the instant lies in one of the admitted years. -/
def inRange (t : Instant) : Bool := yearInRange t.date.year

/-- The instant that many seconds after 1970-01-01, if its year is admitted. -/
def ofSeconds? (secs : Int) : Option Instant :=
  let t : Instant := ⟨secs, 0⟩
  if t.inRange then some t else none

end Instant

/-- A time as it was written: a date, a time of day, and possibly a fraction of a second, a
weekday and an offset from UTC in seconds. -/
structure Fields where
  year : Int := 0
  month : Nat := 0
  day : Nat := 0
  hour : Nat := 0
  minute : Nat := 0
  second : Nat := 0
  fraction : Nat := 0
  weekday : Option Nat := none
  offset : Int := 0
deriving DecidableEq, Repr

namespace Fields

/-- Seconds since the start of the day; a leap second counts as the second before it. -/
def secondOfDay (f : Fields) : Int :=
  f.hour * 3600 + f.minute * 60 + (if f.second = 60 then 59 else f.second)

/-- Nanoseconds on top of them. -/
def nanos (f : Fields) : Nat := (if f.second = 60 then secondNanos else 0) + f.fraction

/-- Whether the parts of the time of day and the offset are in range. -/
def clockExists (f : Fields) : Bool :=
  f.hour < 24 && f.minute < 60 && f.second ≤ 60 && f.fraction < secondNanos &&
    -daySeconds < f.offset && f.offset < daySeconds

/-- Whether a weekday, if there is one, is that of the date. -/
def weekdayAgrees (f : Fields) (d : Date) : Bool := f.weekday.all (· == d.weekday)

/-- The instant that the fields denote, if the day exists, the clock shows such a time, the
weekday agrees, and neither the written date nor the instant leaves the admitted years. -/
def instant? (f : Fields) : Option Instant :=
  (Date.of? f.year f.month f.day).bind fun d =>
    let t : Instant := ⟨d.dayNumber * daySeconds + f.secondOfDay - f.offset, f.nanos⟩
    if yearInRange f.year && f.clockExists && f.weekdayAgrees d && t.inRange then some t else none

/-- The seconds of an instant are those of its date and its time of day, less the offset. -/
theorem instant?_secs {f : Fields} {t : Instant} (h : f.instant? = some t) :
    ∃ d, Date.of? f.year f.month f.day = some d ∧
      t = ⟨d.dayNumber * daySeconds + f.secondOfDay - f.offset, f.nanos⟩ := by
  obtain ⟨d, hd, ht⟩ := Option.bind_eq_some_iff.1 h
  refine ⟨d, hd, ?_⟩
  simp only at ht
  split at ht
  · exact (Option.some.inj ht).symm
  · exact absurd ht (by simp)

end Fields

/-! ## The display of an instant -/

namespace Instant

/-- A year with four digits or more; outside 0 to 9999 its sign is written. -/
def yearText (y : Int) : List Char :=
  let digits := Text.Numeral.padded 4 y.natAbs
  if y < 0 then '-' :: digits else if 9999 < y then '+' :: digits else digits

/-- The UTC date and time of day down to the second, a leap second as `60`. -/
def display (t : Instant) : List Char :=
  let d := t.date
  let s := (t.secs % daySeconds).toNat
  let two := Text.Numeral.padded 2
  yearText d.year ++ '-' :: two d.month ++ '-' :: two d.day ++
    ' ' :: two (s / 3600) ++ ':' :: two (s / 60 % 60) ++
    ':' :: two (s % 60 + t.nanos / secondNanos)

end Instant

end Stratum.Time
