import Stratum.Text.Quoted
import Stratum.Time.Pattern
import Mathlib.Algebra.Group.Nat.Defs

/-!
# Numbers at the front of a text

A number is written with zeros in front of it, up to a width, and read back from the front of a
longer text. Reading takes as many digits as it may, so the number comes back as it was if its width
is the most that may be taken, or if no digit follows.

> `number_eq_some_iff`: what a number takes and what it leaves.
> `number_padded`: a number with its zeros is read back.
> `year_yearText`: so is a year with its sign.
-/

namespace Stratum

open Text

namespace Text

/-- Letters and digits are no blanks. -/
theorem not_isBlank_of_isAlphanum {c : Char} (h : c.isAlphanum = true) : isBlank c = false := by
  have hranges := Quoted.ranges_of_isAlphanum h
  simp only [isBlank, UInt32.le_iff_toNat_le, ← UInt32.toNat_inj, UInt32.reduceToNat,
    Char.toNat_val, Bool.or_eq_false_iff, Bool.and_eq_false_imp, decide_eq_true_eq,
    decide_eq_false_iff_not, Nat.not_le, beq_eq_false_iff_ne, ne_eq]
  omega

theorem not_isBlank_of_isAlpha {c : Char} (h : c.isAlpha = true) : isBlank c = false :=
  not_isBlank_of_isAlphanum (Bool.or_eq_true_iff.2 (Or.inl h))

theorem not_isBlank_of_isDigit {c : Char} (h : c.isDigit = true) : isBlank c = false :=
  not_isBlank_of_isAlphanum (Bool.or_eq_true_iff.2 (Or.inr h))

end Text

/-! ## As it is written -/

namespace Text.Numeral

/-- A padded number has digits only. -/
theorem isDigit_of_mem_padded {w n : Nat} {c : Char} (h : c ∈ padded w n) : c.isDigit = true := by
  unfold padded List.leftpad at h
  rcases List.mem_append.1 h with h | h
  · rw [List.eq_of_mem_replicate h]
    rfl
  · exact List.all_eq_true.1 (all_isDigit_digits n) c h

/-- Zeros in front change no value. -/
theorem value_padded (w n : Nat) : value (padded w n) = n := by
  show Nat.ofDigitChars 10 (List.replicate _ '0' ++ digits n) 0 = n
  rw [Nat.ofDigitChars_append, Nat.ofDigitChars_replicate_zero]
  exact value_digits n

/-- It has at least its width. -/
theorem le_length_padded (w n : Nat) : w ≤ (padded w n).length := by
  unfold padded
  rw [List.length_leftpad]
  exact Nat.le_max_left _ _

/-- It has its width exactly, if it fits. -/
theorem length_padded {w n : Nat} (hw : 0 < w) (hn : n < 10 ^ w) : (padded w n).length = w := by
  have hdigits : (digits n).length ≤ w := (Nat.length_toDigits_le_iff (by decide) hw).2 hn
  unfold padded
  rw [List.length_leftpad]
  exact Nat.max_eq_left hdigits

end Text.Numeral

namespace Time

open Text.Numeral

/-! ## As it is read -/

namespace Scan

/-- No digit comes first. -/
def NoDigit (s : List Char) : Prop := ∀ c ∈ s.head?, c.isDigit = false

theorem noDigit_cons {c : Char} (h : c.isDigit = false) (s : List Char) : NoDigit (c :: s) := by
  intro d hd
  cases hd
  exact h

variable {lo hi : Nat} {ds rest : List Char}

/-- Digits are taken up to their number, or up to what is no digit. -/
theorem digits_append (hds : ∀ c ∈ ds, c.isDigit = true) (hlen : ds.length ≤ hi)
    (hrest : ds.length = hi ∨ NoDigit rest) : digits hi (ds ++ rest) = ds := by
  unfold digits
  rw [List.take_append, List.take_of_length_le hlen, List.takeWhile_append_of_pos hds]
  suffices h : (rest.take (hi - ds.length)).takeWhile Char.isDigit = [] by
    rw [h, List.append_nil]
  rcases hrest with heq | hno
  · rw [heq, Nat.sub_self]
    rfl
  · cases rest with
    | nil => rw [List.take_nil, List.takeWhile_nil]
    | cons c r =>
      have hc : c.isDigit = false := hno c rfl
      cases hi - ds.length with
      | zero => rfl
      | succ k => rw [List.take_succ_cons, List.takeWhile_cons_of_neg (by rw [hc]; decide)]

theorem digits_front (hi : Nat) (s : List Char) : digits hi s <+: s :=
  (List.takeWhile_prefix _).trans (List.take_prefix _ _)

/-- No digit follows the digits that are taken, unless they are as many as may be. -/
theorem noDigit_drop_digits {s : List Char} (h : (digits hi s).length ≠ hi) :
    NoDigit (s.drop (digits hi s).length) := by
  have htake : digits hi s = (s.takeWhile Char.isDigit).take hi := (List.take_takeWhile).symm
  have hlen : (s.takeWhile Char.isDigit).length < hi := by
    rw [htake, List.length_take] at h
    omega
  have hdrop : s.drop (s.takeWhile Char.isDigit).length = s.dropWhile Char.isDigit := by
    have hs : s.takeWhile Char.isDigit ++ s.dropWhile Char.isDigit = s :=
      List.takeWhile_append_dropWhile
    calc s.drop (s.takeWhile Char.isDigit).length
        = (s.takeWhile Char.isDigit ++ s.dropWhile Char.isDigit).drop
            (s.takeWhile Char.isDigit).length := by rw [hs]
      _ = s.dropWhile Char.isDigit := List.drop_left
  rw [htake, List.take_of_length_le (Nat.le_of_lt hlen), hdrop]
  intro c hc
  have hnot := List.head?_dropWhile_not Char.isDigit s
  rw [Option.mem_def.1 hc] at hnot
  exact hnot

/-- A number takes digits off the front, and goes on to the last unless it may take no more. -/
theorem number_eq_some_iff {s : List Char} {n : Nat} :
    number lo hi s = some (n, rest) ↔ ∃ ds, s = ds ++ rest ∧ (∀ c ∈ ds, c.isDigit = true) ∧
      lo ≤ ds.length ∧ ds.length ≤ hi ∧ (ds.length = hi ∨ NoDigit rest) ∧ value ds = n := by
  constructor
  · intro h
    unfold number at h
    simp only at h
    split at h
    · next hlo =>
      obtain ⟨hn, rfl⟩ := Prod.mk.inj (Option.some.inj h)
      refine ⟨digits hi s, (List.prefix_iff_eq_append.1 (digits_front hi s)).symm, ?_, hlo, ?_, ?_,
        hn⟩
      · intro c hc
        exact List.all_eq_true.1 List.all_takeWhile c hc
      · exact Nat.le_trans (List.takeWhile_sublist _).length_le (List.length_take_le _ _)
      · exact Decidable.or_iff_not_imp_left.2 noDigit_drop_digits
    · cases h
  · intro h
    obtain ⟨ds, rfl, hds, hlo, hhi, hrest, rfl⟩ := h
    unfold number
    simp only [digits_append hds hhi hrest]
    rw [if_pos hlo, List.drop_left]

/-- A number starts with a digit. -/
theorem head_of_number {s : List Char} {n : Nat} (hlo : 0 < lo)
    (h : number lo hi s = some (n, rest)) : ∃ c t, s = c :: t ∧ c.isDigit = true := by
  obtain ⟨ds, rfl, hds, hlen, -⟩ := number_eq_some_iff.1 h
  cases ds with
  | nil => exact absurd hlen (Nat.not_le_of_gt hlo)
  | cons d ds => exact ⟨d, ds ++ rest, rfl, hds d (List.mem_cons_self ..)⟩

/-- A number has no blanks before it. -/
theorem skipBlank_of_number {s : List Char} {n : Nat} (hlo : 0 < lo)
    (h : number lo hi s = some (n, rest)) : skipBlank s = s := by
  obtain ⟨c, t, rfl, hc⟩ := head_of_number hlo h
  exact skipBlank_cons (not_isBlank_of_isDigit hc) t

/-- A number that fits its width is read back, whatever follows. -/
theorem number_padded {w n : Nat} (hw : 0 < w) (hn : n < 10 ^ w) (hlo : lo ≤ w)
    (rest : List Char) : number lo w (padded w n ++ rest) = some (n, rest) := by
  have hlen := length_padded hw hn
  exact number_eq_some_iff.2 ⟨_, rfl, fun c hc => isDigit_of_mem_padded hc, by omega, by omega,
    Or.inl hlen, value_padded w n⟩

/-- A number of any length is read back in front of what is no digit. -/
theorem longNumber_padded {w n : Nat} (hlo : lo ≤ w) (hrest : NoDigit rest) :
    longNumber lo (padded w n ++ rest) = some (n, rest) := by
  have hlen := le_length_padded w n
  exact number_eq_some_iff.2 ⟨_, rfl, fun c hc => isDigit_of_mem_padded hc, by omega, by simp,
    Or.inr hrest, value_padded w n⟩

end Scan

/-! ## Parts of a pattern -/

namespace Pattern

open Scan

variable {w n : Nat} {s rest : List Char}

/-- A number with so many digits is one with at most so many. -/
theorem field_of_number (hw : 0 < w) (h : number w w s = some (n, rest)) :
    field w s = some (n, rest) := by
  unfold field
  rw [skipBlank_of_number hw h]
  obtain ⟨ds, hs, hds, hlo, hrest⟩ := number_eq_some_iff.1 h
  exact number_eq_some_iff.2 ⟨ds, hs, hds, by omega, hrest⟩

/-- Hence a field of a date or a time is. -/
theorem field_padded (hw : 0 < w) (hn : n < 10 ^ w) (rest : List Char) :
    field w (Text.Numeral.padded w n ++ rest) = some (n, rest) :=
  field_of_number hw (number_padded hw hn (Nat.le_refl w) rest)

/-- A number of four digits is a year. -/
theorem year_of_number (h : number 4 4 s = some (n, rest)) : year s = some ((n : Int), rest) := by
  have hfield : number 1 4 s = some (n, rest) := by
    rw [← skipBlank_of_number (by decide) h]
    exact field_of_number (by decide) h
  obtain ⟨c, t, hs, hc⟩ := head_of_number (by decide) h
  unfold year
  rw [skipBlank_of_number (by decide) h]
  -- No digit is a sign.
  split
  · obtain ⟨rfl, -⟩ := List.cons.inj hs
    cases hc
  · obtain ⟨rfl, -⟩ := List.cons.inj hs
    cases hc
  · rw [hfield]
    rfl

/-- A year is read back as it was if no digit follows. -/
theorem year_yearText (y : Int) (hrest : NoDigit rest) :
    year (Instant.yearText y ++ rest) = some (y, rest) := by
  have hlong : longNumber 1 (Text.Numeral.padded 4 y.natAbs ++ rest) = some (y.natAbs, rest) :=
    longNumber_padded (by decide) hrest
  unfold Instant.yearText
  simp only
  split
  · next hneg =>
    show (longNumber 1 (Text.Numeral.padded 4 y.natAbs ++ rest)).map _ = _
    rw [hlong]
    show some (-(y.natAbs : Int), rest) = _
    rw [show -(y.natAbs : Int) = y by omega]
  · split
    · next hbig =>
      show (longNumber 1 (Text.Numeral.padded 4 y.natAbs ++ rest)).map _ = _
      rw [hlong]
      show some ((y.natAbs : Int), rest) = _
      rw [show (y.natAbs : Int) = y by omega]
    · have hn : y.natAbs < 10 ^ 4 := by omega
      rw [year_of_number (number_padded (by decide) hn (Nat.le_refl 4) rest)]
      rw [show (y.natAbs : Int) = y by omega]

end Pattern

end Time

end Stratum
