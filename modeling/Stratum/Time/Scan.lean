import Stratum.Text.Blank
import Stratum.Text.Numeral
import Stratum.Time.Calendar

/-!
# Taking the parts of a time off the front of a text

Each function takes one part off the front of a text and gives the rest back, or fails.
Numbers take as many digits as they may, names are three letters in any case, blanks are
taken all at once.

> `number_length`: a number leaves less text than there was, unless it may be empty.
-/

namespace Stratum.Time.Scan

open Text (skipBlank)
open Text.Numeral (value)

/-- The digits at the front, `hi` at the most. -/
def digits (hi : Nat) (s : List Char) : List Char := (s.take hi).takeWhile Char.isDigit

/-- A number of `lo` to `hi` digits; digits after the `hi`-th belong to the rest. -/
def number (lo hi : Nat) (s : List Char) : Option (Nat × List Char) :=
  let ds := digits hi s
  if lo ≤ ds.length then some (value ds, s.drop ds.length) else none

/-- A number of at least `lo` digits. -/
def longNumber (lo : Nat) (s : List Char) : Option (Nat × List Char) := number lo s.length s

/-- One given character. -/
def literal (c : Char) : List Char → Option (List Char)
  | d :: r => if d = c then some r else none
  | [] => none

/-- One or more blanks. -/
def blanks (s : List Char) : Option (List Char) :=
  match s with
  | c :: r => if Text.isBlank c then some (skipBlank r) else none
  | [] => none

/-- A fraction of a second in nanoseconds: one or more digits, of which nine count. -/
def fraction (s : List Char) : Option (Nat × List Char) :=
  let ds := s.takeWhile Char.isDigit
  if ds.isEmpty then none
  else some (value (List.rightpad 9 '0' (ds.take 9)), s.drop ds.length)

/-- A fraction after a full stop, or nothing at all. -/
def optionalFraction : List Char → Option (Nat × List Char)
  | '.' :: r => fraction r
  | s => some (0, s)

/-- One of the given three-letter names in any case; its place in the list. -/
def name (names : List (List Char)) (s : List Char) : Option (Nat × List Char) :=
  (names.idxOf? ((s.take 3).map Char.toLower)).map fun i => (i, s.drop 3)

/-- A weekday's name: 0 is Monday. -/
def weekday : List Char → Option (Nat × List Char) := name weekdayNames

/-- A month's name: 1 is January. -/
def month (s : List Char) : Option (Nat × List Char) :=
  (name monthNames s).map fun (i, r) => (i + 1, r)

/-- Digits take nothing that is not there. -/
theorem length_digits_le (hi : Nat) (s : List Char) : (digits hi s).length ≤ s.length :=
  Nat.le_trans (List.takeWhile_sublist _).length_le (List.take_sublist _ _).length_le

/-- A number takes as many digits as it must, and leaves the rest. -/
theorem number_length {lo hi n : Nat} {s r : List Char} (h : number lo hi s = some (n, r)) :
    r.length + lo ≤ s.length := by
  unfold number at h
  simp only at h
  split at h
  · obtain ⟨-, rfl⟩ := Prod.mk.inj (Option.some.inj h)
    have := length_digits_le hi s
    simp only [List.length_drop]
    omega
  · exact absurd h (by simp)

end Stratum.Time.Scan
