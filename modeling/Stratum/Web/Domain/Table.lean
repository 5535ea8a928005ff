import Stratum.Text.Hex

/-!
# Tables of characters

Large tables of characters are written as texts. Each word is a code point or a range of code
points in hexadecimal, and may say what the characters stand for: `=` the same for all of them,
`>` the first for the first and so on, `/` so for every second of them.

> `find?_of_not_covers`: where no run covers a character, nothing is found.
-/

namespace Stratum.Domain.Table

open Text

/-- How the targets of a run go along with its characters. -/
inductive Pace where
  /-- All characters have the same target. -/
  | constant
  /-- The target moves on with the character. -/
  | everyOne
  /-- The target moves on with the character, and only every second character belongs to the
  run. -/
  | everySecond
deriving DecidableEq, Repr

/-- A run of characters with their targets. -/
structure Run where
  first : Nat
  last : Nat
  pace : Pace := .constant
  target : List Nat := []
deriving DecidableEq, Repr

namespace Run

/-- Whether a character belongs to a run. -/
def covers (r : Run) (c : Char) : Bool :=
  r.first ≤ c.toNat && c.toNat ≤ r.last &&
    (r.pace != .everySecond || (c.toNat - r.first) % 2 == 0)

/-- The targets of a character of the run. -/
def targets (r : Run) (c : Char) : List Nat :=
  match r.pace with
  | .constant => r.target
  | _ => r.target.map (· + (c.toNat - r.first))

end Run

/-- The number that hexadecimal digits give. -/
def hexNumber (s : List Char) : Nat := (baseValue? 16 s).getD 0

/-- The marks between characters and targets. -/
def paceOf? : Char → Option Pace
  | '=' => some .constant
  | '>' => some .everyOne
  | '/' => some .everySecond
  | _ => none

/-- Reads one word of a table. -/
def runOf (word : List Char) : Run :=
  let range := word.takeWhile fun c => (paceOf? c).isNone
  let first := range.takeWhile (· != '-')
  let last := range.drop (first.length + 1)
  let target := word.drop (range.length + 1)
  { first := hexNumber first
    last := hexNumber (if last.isEmpty then first else last)
    pace := ((word.drop range.length).head?.bind paceOf?).getD .constant
    target := if target.isEmpty then [] else (target.splitOn '.').map hexNumber }

/-- The words of a text, which has spaces and line ends between them. -/
def words (text : String) : List (List Char) :=
  (text.toList.splitOnP fun c => c == ' ' || c == '\n').filter (!·.isEmpty)

/-- The runs of a table. -/
def runs (text : String) : List Run := (words text).map runOf

/-- The targets of a character in the first run that covers it. -/
def targets? (rs : List Run) (c : Char) : Option (List Nat) := (rs.find? (·.covers c)).map (·.targets c)

/-- What a character stands for, as characters. -/
def find? (rs : List Run) (c : Char) : Option (List Char) :=
  (targets? rs c).map fun ns => ns.map Char.ofNat

/-- Whether a run covers a character. -/
def contains (rs : List Run) (c : Char) : Bool := rs.any (·.covers c)

/-- A character outside all runs is not found. -/
theorem find?_of_not_covers {rs : List Run} {c : Char} (h : contains rs c = false) :
    find? rs c = none := by
  unfold contains at h
  rw [List.any_eq_false] at h
  unfold find? targets?
  rw [List.find?_eq_none.2 h]
  rfl

end Stratum.Domain.Table
