import Stratum.Proofs.DayCount
import Stratum.Time.Instant

/-!
# Civil times

Which instant a reading denotes is decided in one place, and there for any year that an instant can
have. In the years with four digits the bounds on the years are out of sight, whatever the offset
from UTC, and what is left is the calendar and the clock.

> `instant?_eq_some_iff`: when a reading denotes an instant, and which.
-/

namespace Stratum.Time

/-- A day before or after a year with four digits is in an admitted year. -/
theorem yearOfDay_near {k y : Int} (hy : 0 ≤ y ∧ y ≤ 9999) (hlo : daysBeforeYear y - 1 ≤ k)
    (hhi : k ≤ daysBeforeYear (y + 1)) : yearInRange (yearOfDay k) = true := by
  obtain ⟨low, high⟩ := yearOfDay_bounds k
  have hfirst := daysBeforeYear_mono hy.1
  have hlast := daysBeforeYear_mono (show y + 1 ≤ 10000 by omega)
  have habove : -262143 ≤ yearOfDay k := by
    refine Int.not_lt.1 fun hbelow => ?_
    have hbefore := daysBeforeYear_mono (show yearOfDay k + 1 ≤ -1 by omega)
    have hstep : daysBeforeYear (-1) < daysBeforeYear 0 - 1 := by decide
    omega
  have hbelow : yearOfDay k ≤ 262142 := by
    refine Int.not_lt.1 fun habove => ?_
    have hafter := daysBeforeYear_mono (show 10001 ≤ yearOfDay k by omega)
    have hstep : daysBeforeYear 10000 < daysBeforeYear 10001 := by decide
    omega
  unfold yearInRange
  rw [decide_eq_true habove, decide_eq_true hbelow]
  rfl

/-- So an offset of less than a day does not lead out of the admitted years. -/
theorem Instant.inRange_near {d : Date} (hyear : 0 ≤ d.year ∧ d.year ≤ 9999) {s : Int}
    (hs : -daySeconds ≤ s ∧ s < 2 * daySeconds) (nanos : Nat) :
    Instant.inRange ⟨d.dayNumber * daySeconds + s, nanos⟩ = true := by
  obtain ⟨low, high⟩ := d.dayNumber_bounds
  unfold daySeconds at *
  show yearInRange (yearOfDay ((d.dayNumber * 86400 + s) / 86400 + epochDay)) = true
  exact yearOfDay_near hyear (by omega) (by omega)

namespace Fields

variable {f : Fields} {t : Instant}

/-- A time of day exists if its parts are in their ranges, and the offset is less than a day. -/
theorem clockExists_iff : f.clockExists = true ↔ (f.hour < 24 ∧ f.minute < 60 ∧ f.second ≤ 60) ∧
    f.fraction < secondNanos ∧ -daySeconds < f.offset ∧ f.offset < daySeconds := by
  simp only [clockExists, Bool.and_eq_true, decide_eq_true_eq, and_assoc]

theorem secondOfDay_bounds (h : f.clockExists = true) :
    0 ≤ f.secondOfDay - f.offset + daySeconds ∧ f.secondOfDay - f.offset < 2 * daySeconds := by
  have hbounds := clockExists_iff.1 h
  unfold secondOfDay
  unfold daySeconds at *
  split <;> omega

/-- A reading in a year with four digits denotes an instant exactly if there are such a day and such a
time of day, and the weekday is that of the day. The instant is the civil time less the offset. -/
theorem instant?_eq_some_iff (hyear : 0 ≤ f.year ∧ f.year ≤ 9999) :
    f.instant? = some t ↔ ∃ d : Date, (d.year = f.year ∧ d.month = f.month ∧ d.day = f.day) ∧
      f.clockExists = true ∧ f.weekdayAgrees d = true ∧
      t = ⟨d.dayNumber * daySeconds + f.secondOfDay - f.offset, f.nanos⟩ := by
  unfold instant?
  rw [Option.bind_eq_some_iff]
  constructor
  · intro h
    obtain ⟨d, hd, h⟩ := h
    simp only at h
    split at h
    · next hcond =>
      simp only [Bool.and_eq_true] at hcond
      exact ⟨d, Date.of?_eq_some_iff.1 hd, hcond.1.1.2, hcond.1.2, (Option.some.inj h).symm⟩
    · cases h
  · intro h
    obtain ⟨d, hd, hclock, hweekday, rfl⟩ := h
    refine ⟨d, Date.of?_eq_some_iff.2 hd, ?_⟩
    have hadmitted : yearInRange f.year = true := by
      unfold yearInRange
      rw [decide_eq_true (by omega), decide_eq_true (by omega)]
      rfl
    have hbounds := secondOfDay_bounds hclock
    have hrange : Instant.inRange
        ⟨d.dayNumber * daySeconds + f.secondOfDay - f.offset, f.nanos⟩ = true := by
      rw [Int.add_sub_assoc]
      exact Instant.inRange_near (hd.1 ▸ hyear) (by omega) f.nanos
    simp only [hadmitted, hclock, hweekday, hrange, Bool.and_self, if_true]

end Fields

end Stratum.Time
