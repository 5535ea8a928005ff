import Mathlib.Data.Int.Init
import Stratum.Time.Calendar

/-!
# Counting days

The number of a day is worked out from its year and its month. What it is meant to be is said here by
counting: 1970-01-01 has the number 0, and the day after a day has the next number, back and forth
through all the months and all the leap years. There is one way to count, and the numbers that are
worked out are those that are counted.

> `dayNumber_next`: the day after a day has the next number.
> `counted_iff`: the number of a day is the one it is counted to have.
-/

namespace Stratum.Time

/-! ## Months and years -/

/-- Every month has a first day. -/
theorem daysInMonth_pos (leap : Bool) {m : Nat} (hm : 1 ≤ m ∧ m ≤ 12) :
    1 ≤ daysInMonth leap m := by
  have hall : ∀ leap : Bool, ∀ m ∈ List.range' 1 12, 1 ≤ daysInMonth leap m := by decide
  exact hall leap m (List.mem_range'_1.2 (by omega))

/-- No month has more than 31 days. -/
theorem daysInMonth_le (leap : Bool) (m : Nat) : daysInMonth leap m ≤ 31 := by
  unfold daysInMonth
  cases leap <;> split <;> decide

/-- A month ends where the next one starts. -/
theorem daysBeforeMonth_succ (leap : Bool) {m : Nat} (hm : 1 ≤ m) :
    daysBeforeMonth leap (m + 1) = daysBeforeMonth leap m + daysInMonth leap m := by
  obtain ⟨k, rfl⟩ := Nat.exists_eq_add_of_le' hm
  show (List.range' 1 (k + 1)).foldl _ 0 = (List.range' 1 k).foldl _ 0 + _
  rw [List.range'_1_concat, List.foldl_append, Nat.add_comm 1 k]
  rfl

/-- The last month ends with the year. -/
theorem daysBeforeMonth_december (leap : Bool) :
    daysBeforeMonth leap 12 + daysInMonth leap 12 = yearLength leap := by
  cases leap <;> rfl

namespace Date

variable {d : Date} {n : Int}

/-- A date is its parts. -/
theorem of?_eq_some_iff {y : Int} {m k : Nat} :
    of? y m k = some d ↔ d.year = y ∧ d.month = m ∧ d.day = k := by
  unfold of?
  constructor
  · intro h
    split at h
    · split at h
      · cases h
        exact ⟨rfl, rfl, rfl⟩
      · cases h
    · cases h
  · intro h
    obtain ⟨rfl, rfl, rfl⟩ := h
    rw [dif_pos d.month_exists, dif_pos d.day_exists]

/-! ## Day after day -/

/-- 1970-01-01. -/
def epoch : Date := ⟨1970, 1, 1, by decide, by decide⟩

/-- The day after: the next one of its month, or the first one of the next month or year. -/
def next (d : Date) : Date :=
  if hday : d.day < daysInMonth (isLeap d.year) d.month then
    ⟨d.year, d.month, d.day + 1, d.month_exists, by omega⟩
  else if hmonth : d.month < 12 then
    have hexists : 1 ≤ d.month + 1 ∧ d.month + 1 ≤ 12 := by omega
    ⟨d.year, d.month + 1, 1, hexists, Nat.le_refl 1, daysInMonth_pos _ hexists⟩
  else ⟨d.year + 1, 1, 1, by decide, Nat.le_refl 1, daysInMonth_pos _ (by decide)⟩

/-- A day that is reached by counting from 1970-01-01, forwards or backwards. -/
inductive Counted : Date → Int → Prop
  | epoch : Counted epoch 0
  | next {d : Date} {n : Int} (h : Counted d n) : Counted d.next (n + 1)
  | back {d : Date} {n : Int} (h : Counted d.next (n + 1)) : Counted d n

/-- **The day after a day has the next number.** -/
theorem dayNumber_next (d : Date) : d.next.dayNumber = d.dayNumber + 1 := by
  have hday := d.day_exists
  have hmonth := d.month_exists
  unfold next
  split
  · show daysBeforeYear d.year + daysBeforeMonth (isLeap d.year) d.month +
      (((d.day + 1 : Nat) : Int) - 1) - epochDay = d.dayNumber + 1
    unfold dayNumber
    omega
  · split
    · show daysBeforeYear d.year + daysBeforeMonth (isLeap d.year) (d.month + 1) +
        (((1 : Nat) : Int) - 1) - epochDay = d.dayNumber + 1
      rw [daysBeforeMonth_succ _ hmonth.1]
      unfold dayNumber
      omega
    · have hlast : d.month = 12 := by omega
      have hyear : daysBeforeMonth (isLeap d.year) d.month + daysInMonth (isLeap d.year) d.month =
          yearLength (isLeap d.year) := by
        rw [hlast]
        exact daysBeforeMonth_december _
      show daysBeforeYear (d.year + 1) + daysBeforeMonth (isLeap (d.year + 1)) 1 +
        (((1 : Nat) : Int) - 1) - epochDay = d.dayNumber + 1
      have hfirst : daysBeforeMonth (isLeap (d.year + 1)) 1 = 0 := rfl
      rw [daysBeforeYear_succ, hfirst]
      unfold dayNumber
      omega

/-- Days differ by their numbers. -/
theorem dayNumber_injective {d e : Date} (h : d.dayNumber = e.dayNumber) : d = e := by
  rw [← ofDayNumber_dayNumber d, h, ofDayNumber_dayNumber]

theorem next_ofDayNumber (n : Int) : (ofDayNumber n).next = ofDayNumber (n + 1) := by
  apply dayNumber_injective
  rw [dayNumber_next, dayNumber_ofDayNumber, dayNumber_ofDayNumber]

/-- Counting comes to every number, and to the day with that number. -/
theorem counted_ofDayNumber (n : Int) : Counted (ofDayNumber n) n := by
  induction n using Int.induction_on with
  | zero => exact ofDayNumber_dayNumber epoch ▸ Counted.epoch
  | succ n ih => exact next_ofDayNumber n ▸ ih.next
  | pred n ih =>
    refine Counted.back ?_
    rw [next_ofDayNumber, Int.sub_add_cancel]
    exact ih

/-- **The number of a day is the one it is counted to have.** -/
theorem counted_iff : d.Counted n ↔ d.dayNumber = n := by
  constructor
  · intro h
    induction h with
    | epoch => rfl
    | next _ ih => rw [dayNumber_next, ih]
    | back _ ih =>
      rw [dayNumber_next] at ih
      omega
  · intro h
    have hcounted := counted_ofDayNumber d.dayNumber
    rw [ofDayNumber_dayNumber, h] at hcounted
    exact hcounted

/-- The weekday follows from the count: 1970-01-01 was a Thursday. -/
theorem Counted.weekday_eq (h : d.Counted n) : (d.weekday : Int) = (n + 3) % 7 := by
  unfold weekday
  rw [counted_iff.1 h]
  omega

end Date

end Stratum.Time
