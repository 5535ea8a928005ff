/-!
# The civil calendar

Dates of the proleptic Gregorian calendar, year 0 and the years before it included, and
their day numbers, counted from 1970-01-01. A `Date` carries the proof that its day
exists, so a day number always has a date and a date always has a day number.

The year of a day is found by an estimate from the mean length of a year, which is off by
at most one, and a comparison with the day numbers of the new years around it.

> `dayNumber_ofDayNumber`, `ofDayNumber_dayNumber`: day numbers and dates determine each
> other.
-/

namespace Stratum.Time

/-- Every fourth year is a leap year, but of the centuries only every fourth. -/
def isLeap (y : Int) : Bool := y % 4 == 0 && (y % 100 != 0 || y % 400 == 0)

/-- How many days a year has. -/
def yearLength (leap : Bool) : Nat := if leap then 366 else 365

/-- How many days the month `m` (1 to 12) has; no other month has any. -/
def daysInMonth (leap : Bool) (m : Nat) : Nat :=
  match m with
  | 1 | 3 | 5 | 7 | 8 | 10 | 12 => 31
  | 4 | 6 | 9 | 11 => 30
  | 2 => if leap then 29 else 28
  | _ => 0

/-- How many days of the year lie before the month `m` (1 to 12). -/
def daysBeforeMonth (leap : Bool) (m : Nat) : Nat :=
  (List.range' 1 (m - 1)).foldl (fun days m => days + daysInMonth leap m) 0

/-- How many days lie between 0001-01-01 and the first day of the year `y`. -/
def daysBeforeYear (y : Int) : Int :=
  365 * (y - 1) + (y - 1) / 4 - (y - 1) / 100 + (y - 1) / 400

/-- The distance from 0001-01-01 to 1970-01-01. -/
def epochDay : Int := 719162

/-- A day that exists. -/
structure Date where
  year : Int
  month : Nat
  day : Nat
  month_exists : 1 ≤ month ∧ month ≤ 12
  day_exists : 1 ≤ day ∧ day ≤ daysInMonth (isLeap year) month
deriving DecidableEq

namespace Date

/-- The date with these parts, if that day exists. -/
def of? (year : Int) (month day : Nat) : Option Date :=
  if hm : 1 ≤ month ∧ month ≤ 12 then
    if hd : 1 ≤ day ∧ day ≤ daysInMonth (isLeap year) month then
      some ⟨year, month, day, hm, hd⟩
    else none
  else none

/-- Days since 1970-01-01. -/
def dayNumber (d : Date) : Int :=
  daysBeforeYear d.year + daysBeforeMonth (isLeap d.year) d.month + (d.day - 1) - epochDay

/-- Days since Monday: 0 is Monday and 6 is Sunday. -/
def weekday (d : Date) : Nat := ((d.dayNumber + 3) % 7).toNat

end Date

/-! ## From a day number to a date -/

/-- The year in which the `k`-th day after 0001-01-01 lies. -/
def yearOfDay (k : Int) : Int :=
  let y := 400 * k / 146097 + 1
  if k < daysBeforeYear y then y - 1
  else if daysBeforeYear (y + 1) ≤ k then y + 1
  else y

/-- The month in which the `d`-th day of a year lies, counted from 0. -/
def monthOfDay (leap : Bool) (d : Nat) : Nat :=
  ((List.range' 1 12).filter fun m => daysBeforeMonth leap m ≤ d).length

/-- A day lies between the first days of its year and of the next. -/
theorem yearOfDay_bounds (k : Int) :
    daysBeforeYear (yearOfDay k) ≤ k ∧ k < daysBeforeYear (yearOfDay k + 1) := by
  unfold yearOfDay
  simp only
  split
  · unfold daysBeforeYear at *; omega
  · split <;> unfold daysBeforeYear at * <;> omega

/-- Later years start later. -/
theorem daysBeforeYear_mono {a b : Int} (h : a ≤ b) : daysBeforeYear a ≤ daysBeforeYear b := by
  unfold daysBeforeYear; omega

/-- Between the first days of two years in a row lie the days of the first. -/
theorem yearOfDay_eq {k y : Int} (lo : daysBeforeYear y ≤ k) (hi : k < daysBeforeYear (y + 1)) :
    yearOfDay k = y := by
  have ⟨lo', hi'⟩ := yearOfDay_bounds k
  rcases Int.lt_trichotomy (yearOfDay k) y with h | h | h
  · have := daysBeforeYear_mono (show yearOfDay k + 1 ≤ y by omega); omega
  · exact h
  · have := daysBeforeYear_mono (show y + 1 ≤ yearOfDay k by omega); omega

/-- A year is as long as its months. -/
theorem daysBeforeYear_succ (y : Int) :
    daysBeforeYear (y + 1) = daysBeforeYear y + yearLength (isLeap y) := by
  unfold daysBeforeYear isLeap yearLength
  simp only [Bool.and_eq_true, Bool.or_eq_true, beq_iff_eq, bne_iff_ne]
  split <;> omega

/-- Where a day lies in its year. -/
theorem dayOfYear_lt (k : Int) :
    (k - daysBeforeYear (yearOfDay k)).toNat < yearLength (isLeap (yearOfDay k)) := by
  have ⟨lo, hi⟩ := yearOfDay_bounds k
  rw [daysBeforeYear_succ] at hi
  omega

/-- The finite part of the calendar: where a day of the year lies, for both lengths. -/
theorem monthOfDay_bounds : ∀ leap : Bool, ∀ d < yearLength leap,
    1 ≤ monthOfDay leap d ∧ monthOfDay leap d ≤ 12 ∧
      daysBeforeMonth leap (monthOfDay leap d) ≤ d ∧
      d < daysBeforeMonth leap (monthOfDay leap d) + daysInMonth leap (monthOfDay leap d) := by
  decide +kernel

/-- A day of a month is found again in its month, and inside the year. -/
theorem monthOfDay_of_day : ∀ leap : Bool, ∀ m ∈ List.range' 1 12, ∀ d < daysInMonth leap m,
    monthOfDay leap (daysBeforeMonth leap m + d) = m ∧
      daysBeforeMonth leap m + d < yearLength leap := by
  decide +kernel

namespace Date

/-- The date `n` days after 1970-01-01. -/
def ofDayNumber (n : Int) : Date :=
  let k := n + epochDay
  let y := yearOfDay k
  let d := (k - daysBeforeYear y).toNat
  let m := monthOfDay (isLeap y) d
  have hm : 1 ≤ m ∧ m ≤ 12 ∧ daysBeforeMonth (isLeap y) m ≤ d ∧
      d < daysBeforeMonth (isLeap y) m + daysInMonth (isLeap y) m :=
    monthOfDay_bounds (isLeap y) d (dayOfYear_lt k)
  ⟨y, m, d - daysBeforeMonth (isLeap y) m + 1, ⟨hm.1, hm.2.1⟩, by omega⟩

/-- A number of a day gives the date with that number. -/
theorem dayNumber_ofDayNumber (n : Int) : (ofDayNumber n).dayNumber = n := by
  have ⟨lo, _⟩ := yearOfDay_bounds (n + epochDay)
  have hm := monthOfDay_bounds _ _ (dayOfYear_lt (n + epochDay))
  simp only [ofDayNumber, dayNumber]
  omega

/-- The number of a date lies in its year. -/
theorem dayNumber_bounds (d : Date) :
    daysBeforeYear d.year ≤ d.dayNumber + epochDay ∧
      d.dayNumber + epochDay < daysBeforeYear (d.year + 1) := by
  have hd := d.day_exists
  have hm := monthOfDay_of_day (isLeap d.year) d.month
    (List.mem_range'_1.2 (by have := d.month_exists; omega)) (d.day - 1) (by omega)
  rw [daysBeforeYear_succ]
  unfold dayNumber
  omega

/-- The number of a date gives the date back. -/
theorem ofDayNumber_dayNumber (d : Date) : ofDayNumber d.dayNumber = d := by
  have ⟨lo, hi⟩ := dayNumber_bounds d
  have hy : yearOfDay (d.dayNumber + epochDay) = d.year := yearOfDay_eq lo hi
  have hd := d.day_exists
  have hm := monthOfDay_of_day (isLeap d.year) d.month
    (List.mem_range'_1.2 (by have := d.month_exists; omega)) (d.day - 1) (by omega)
  have hk : (d.dayNumber + epochDay - daysBeforeYear d.year).toNat =
      daysBeforeMonth (isLeap d.year) d.month + (d.day - 1) := by
    unfold dayNumber; omega
  obtain ⟨y, m, dd, h1, h2⟩ := d
  simp only [ofDayNumber] at *
  simp only [hy, hk, hm.1, mk.injEq, true_and]
  omega

end Date

/-! ## Names -/

/-- The months' English names, shortened to three letters. -/
def monthNames : List (List Char) :=
  ["jan", "feb", "mar", "apr", "may", "jun", "jul", "aug", "sep", "oct", "nov", "dec"].map
    String.toList

/-- The weekdays' English names, shortened to three letters, Monday first. -/
def weekdayNames : List (List Char) :=
  ["mon", "tue", "wed", "thu", "fri", "sat", "sun"].map String.toList

end Stratum.Time
