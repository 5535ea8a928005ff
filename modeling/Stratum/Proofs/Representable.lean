import Stratum.Proofs.Forms

/-!
# Which instants there are

An instant lies in one of the admitted years. A leap second is kept as the second before it with a
second's nanoseconds on top. These can be put on top of any second; but a leap second that is one
follows a whole minute, and then the instant is regular. All times that are read are: the second 60
is the last of its minute, and every zone is whole minutes away from UTC.

> `Zone.mail_mod`, `Zone.internet_mod`: zones are whole minutes away.
> `regular_of_read?`: a time that is read is regular.
-/

namespace Stratum.Time

open Text

variable {s r : List Char} {t : Instant}

/-! ## Instants that exist -/

namespace Instant

def isLeapSecond (t : Instant) : Bool := secondNanos ≤ t.nanos

/-- An instant of an admitted year, with less than another second's nanoseconds on top. -/
structure Representable (t : Instant) : Prop where
  inRange : t.inRange = true
  nanos_lt : t.nanos < 2 * secondNanos

/-- A leap second that it may be follows the last second of a minute. -/
structure Regular (t : Instant) : Prop extends Representable t where
  leap : t.isLeapSecond = true → t.secs % 60 = 59

/-- The start of the second in which the instant lies. -/
def whole (t : Instant) : Instant := ⟨t.secs, if t.isLeapSecond then secondNanos else 0⟩

/-- Seconds and leap second come back from their sum: a second has no more than one of each. -/
theorem eq_of_whole_eq {u : Instant} (h : t.whole = u.whole) :
    t.secs = u.secs ∧ t.isLeapSecond = u.isLeapSecond := by
  obtain ⟨hsecs, hnanos⟩ := Instant.mk.inj h
  refine ⟨hsecs, ?_⟩
  cases ht : t.isLeapSecond <;> cases hu : u.isLeapSecond
  · rfl
  · rw [ht, hu] at hnanos
    cases hnanos
  · rw [ht, hu] at hnanos
    cases hnanos
  · rfl

/-- Whole seconds are an instant without nanoseconds, if there is such a time. -/
theorem ofSeconds?_eq_some {n : Int} (h : ofSeconds? n = some t) :
    t = ⟨n, 0⟩ ∧ t.inRange = true := by
  unfold ofSeconds? at h
  simp only at h
  split at h
  · next hrange =>
    obtain rfl := Option.some.inj h
    exact ⟨rfl, hrange⟩
  · cases h

/-- Such an instant is not a leap second. -/
theorem regular_of_ofSeconds? {n : Int} (h : ofSeconds? n = some t) : t.Regular := by
  obtain ⟨rfl, hrange⟩ := ofSeconds?_eq_some h
  refine { inRange := hrange, nanos_lt := ?_, leap := ?_ }
  · show 0 < 2 * secondNanos
    decide
  · intro hleap
    have hzero : secondNanos ≤ 0 := of_decide_eq_true hleap
    exact absurd hzero (by decide)

end Instant

/-! ## Instants that are read -/

/-- An instant of fields is regular: a leap second is read in the last second of a minute, and the
offset moves it by whole minutes. -/
theorem Fields.regular_of_instant? {f : Fields} (hoffset : f.offset % 60 = 0)
    (h : f.instant? = some t) : t.Regular := by
  obtain ⟨d, -, h⟩ := Option.bind_eq_some_iff.1 h
  simp only at h
  split at h
  · next hcond =>
    obtain rfl := Option.some.inj h
    simp only [Bool.and_eq_true] at hcond
    obtain ⟨⟨⟨-, hclock⟩, -⟩, hrange⟩ := hcond
    simp only [clockExists, Bool.and_eq_true, decide_eq_true_eq] at hclock
    have hfraction : f.fraction < secondNanos := hclock.1.1.2
    refine { inRange := hrange, nanos_lt := ?_, leap := ?_ }
    · show (if f.second = 60 then secondNanos else 0) + f.fraction < 2 * secondNanos
      split <;> omega
    · intro hleap
      have hnanos : secondNanos ≤ (if f.second = 60 then secondNanos else 0) + f.fraction :=
        of_decide_eq_true hleap
      have hsecond : f.second = 60 := by
        by_contra hne
        rw [if_neg hne] at hnanos
        omega
      show (d.dayNumber * daySeconds + f.secondOfDay - f.offset) % 60 = 59
      unfold secondOfDay daySeconds
      rw [if_pos hsecond]
      omega
  · cases h

/-- A pattern reads no offset, so what it reads is in the minutes of Greenwich. -/
theorem Pattern.regular_of_read? {p : List Item} (h : Pattern.read? p s = some t) :
    t.Regular := by
  obtain ⟨f, hrun, ht⟩ := Pattern.read?_eq_some_iff.1 h
  refine Fields.regular_of_instant? ?_ ht
  rw [Pattern.offset_of_run hrun]
  rfl

/-! ### Zones are whole minutes -/

namespace Zone

/-- Hours and minutes are whole minutes, to the west as to the east. -/
theorem signed_mod (sgn : Int) (hours minutes : Nat) :
    sgn * (hours * 3600 + minutes * 60 : Nat) % 60 = 0 := by
  have hdvd : (60 : Int) ∣ (hours * 3600 + minutes * 60 : Nat) := by omega
  exact Int.emod_eq_zero_of_dvd (Int.dvd_mul_of_dvd_right hdvd)

/-- So an offset in numbers is in whole minutes. -/
theorem offset_mod {colon : Bool} {o : Int} (h : offset colon s = some (o, r)) : o % 60 = 0 := by
  unfold offset at h
  obtain ⟨⟨sgn, s₁⟩, -, h⟩ := Option.bind_eq_some_iff.1 h
  obtain ⟨⟨hours, s₂⟩, -, h⟩ := Option.bind_eq_some_iff.1 h
  have hlast : ∀ s, (Scan.number 2 2 s).bind (fun x =>
      if x.1 < 60 then some (sgn * (hours * 3600 + x.1 * 60 : Nat), x.2) else none) =
        some (o, r) → o % 60 = 0 := by
    intro s hs
    obtain ⟨⟨minutes, s₃⟩, -, hs⟩ := Option.bind_eq_some_iff.1 hs
    simp only at hs
    split at hs
    · obtain ⟨rfl, -⟩ := Prod.mk.inj (Option.some.inj hs)
      exact signed_mod sgn hours minutes
    · cases hs
  cases colon with
  | true =>
    obtain ⟨s₃, -, h⟩ := Option.bind_eq_some_iff.1 h
    exact hlast s₃ h
  | false => exact hlast s₂ h

/-- So is a zone of the Internet form. -/
theorem internet_mod {o : Int} (h : internet s = some (o, r)) : o % 60 = 0 := by
  unfold internet at h
  split at h
  · obtain ⟨rfl, -⟩ := Prod.mk.inj (Option.some.inj h)
    rfl
  · obtain ⟨rfl, -⟩ := Prod.mk.inj (Option.some.inj h)
    rfl
  · exact offset_mod h

theorem ofName?_mod {name : List Char} {o : Int} (h : ofName? name = some o) : o % 60 = 0 := by
  unfold ofName? at h
  simp only at h
  split at h
  · obtain rfl := Option.some.inj h
    omega
  · split at h
    · obtain rfl := Option.some.inj h
      rfl
    · cases h

/-- And one of a mail, by number or by name. -/
theorem mail_mod {o : Int} (h : mail s = some (o, r)) : o % 60 = 0 := by
  unfold mail at h
  simp only at h
  split at h
  · exact offset_mod h
  · obtain ⟨x, hx, hr⟩ := Option.map_eq_some_iff.1 h
    obtain ⟨rfl, -⟩ := Prod.mk.inj hr
    exact ofName?_mod hx

end Zone

/-- Hence the fields of the Internet form are those of a regular instant. -/
theorem Internet.offset_mod {f : Fields} (h : Internet.fields? s = some f) :
    f.offset % 60 = 0 := by
  obtain ⟨-, -, -, -, z, -, -, -, -, -, hzone⟩ := Internet.fields?_eq_some h
  exact Zone.internet_mod hzone

theorem Mail.offset_mod {f : Fields} (h : Mail.fields? s = some f) : f.offset % 60 = 0 := by
  unfold Mail.fields? at h
  obtain ⟨⟨w, s₁⟩, -, h⟩ := Option.bind_eq_some_iff.1 h
  obtain ⟨⟨d, s₂⟩, -, h⟩ := Option.bind_eq_some_iff.1 h
  obtain ⟨s₃, -, h⟩ := Option.bind_eq_some_iff.1 h
  obtain ⟨⟨m, s₄⟩, -, h⟩ := Option.bind_eq_some_iff.1 h
  obtain ⟨s₅, -, h⟩ := Option.bind_eq_some_iff.1 h
  obtain ⟨⟨n, s₆⟩, -, h⟩ := Option.bind_eq_some_iff.1 h
  obtain ⟨s₇, -, h⟩ := Option.bind_eq_some_iff.1 h
  obtain ⟨⟨hour, s₈⟩, -, h⟩ := Option.bind_eq_some_iff.1 h
  obtain ⟨s₉, -, h⟩ := Option.bind_eq_some_iff.1 h
  obtain ⟨⟨minute, s₁₀⟩, -, h⟩ := Option.bind_eq_some_iff.1 h
  obtain ⟨⟨second, s₁₁⟩, -, h⟩ := Option.bind_eq_some_iff.1 h
  obtain ⟨s₁₂, -, h⟩ := Option.bind_eq_some_iff.1 h
  obtain ⟨⟨o, s₁₃⟩, hzone, h⟩ := Option.bind_eq_some_iff.1 h
  simp only at h
  split at h
  · obtain rfl := Option.some.inj h
    exact Zone.mail_mod hzone
  · cases h

/-- Every time that is read is regular. -/
theorem Timestamp.regular_of_read? (h : Timestamp.read? s = some t) : t.Regular := by
  obtain ⟨form, -, h⟩ := Form.findSome?_eq_some_iff.1 h
  cases form with
  | internet =>
    obtain ⟨f, hf, ht⟩ := Option.bind_eq_some_iff.1 h
    exact Fields.regular_of_instant? (Internet.offset_mod hf) ht
  | mail =>
    obtain ⟨f, hf, ht⟩ := Option.bind_eq_some_iff.1 h
    exact Fields.regular_of_instant? (Mail.offset_mod hf) ht
  | dateCommand =>
    obtain ⟨u, -, h⟩ := Option.bind_eq_some_iff.1 h
    exact Pattern.regular_of_read? h
  | spaced | joined | spacedFraction => exact Pattern.regular_of_read? h

end Stratum.Time
