import Stratum.Time.Instant
import Stratum.Time.Scan

/-!
# Times without a zone, read by a pattern

A pattern is a list of items, each of which takes one part off the front of the text and
puts it into its field. Numbers may have blanks before them and fewer digits than their
width, a blank in the pattern stands for any number of blanks, and a year with a sign may
have any number of digits.

> `run_append`: a pattern in two parts is run one part after the other.
-/

namespace Stratum.Time

open Scan Text

/-- One item of a pattern. -/
inductive Item where
  /-- This very character. -/
  | literal (c : Char)
  /-- Any number of blanks, none included. -/
  | blank
  | weekday
  | monthName
  | year
  | month
  | day
  | hour
  | minute
  | second
  /-- A full stop and a fraction of a second, or nothing. -/
  | fraction
deriving DecidableEq, Repr

namespace Pattern

/-- A number of at most `width` digits, after any blanks. -/
def field (width : Nat) (s : List Char) : Option (Nat × List Char) :=
  number 1 width (skipBlank s)

/-- A year after any blanks: up to four digits, or a sign and any number of digits. -/
def year (s : List Char) : Option (Int × List Char) :=
  match skipBlank s with
  | '-' :: r => (longNumber 1 r).map fun (n, r) => (-(n : Int), r)
  | '+' :: r => (longNumber 1 r).map fun (n, r) => ((n : Int), r)
  | r => (number 1 4 r).map fun (n, r) => ((n : Int), r)

/-- Runs one item: the fields so far and what is left of the text. -/
def step (f : Fields) (s : List Char) : Item → Option (Fields × List Char)
  | .literal c => (Scan.literal c s).map fun r => (f, r)
  | .blank => some (f, skipBlank s)
  | .weekday => (Scan.weekday s).map fun (w, r) => ({ f with weekday := some w }, r)
  | .monthName => (Scan.month s).map fun (m, r) => ({ f with month := m }, r)
  | .year => (year s).map fun (y, r) => ({ f with year := y }, r)
  | .month => (field 2 s).map fun (n, r) => ({ f with month := n }, r)
  | .day => (field 2 s).map fun (n, r) => ({ f with day := n }, r)
  | .hour => (field 2 s).map fun (n, r) => ({ f with hour := n }, r)
  | .minute => (field 2 s).map fun (n, r) => ({ f with minute := n }, r)
  | .second => (field 2 s).map fun (n, r) => ({ f with second := n }, r)
  | .fraction => (optionalFraction s).map fun (n, r) => ({ f with fraction := n }, r)

/-- Runs the items of a pattern in order. -/
def run (f : Fields) (s : List Char) : List Item → Option (Fields × List Char)
  | [] => some (f, s)
  | i :: is => (step f s i).bind fun (f, s) => run f s is

/-- Two patterns in a row read one behind the other. -/
theorem run_append (f : Fields) (s : List Char) (p q : List Item) :
    run f s (p ++ q) = (run f s p).bind fun (f, s) => run f s q := by
  induction p generalizing f s with
  | nil => rfl
  | cons i is ih =>
    simp only [List.cons_append, run, Option.bind_assoc]
    exact congrArg _ (funext fun _ => ih _ _)

/-- The instant of a text that the pattern takes as a whole, read as UTC. -/
def read? (p : List Item) (s : List Char) : Option Instant :=
  (run {} s p).bind fun (f, r) => if r.isEmpty then f.instant? else none

/-- Year, month and day with hyphens between them. -/
def date : List Item := [.year, .literal '-', .month, .literal '-', .day]

/-- Hour, minute and second with colons between them. -/
def clock : List Item := [.hour, .literal ':', .minute, .literal ':', .second]

end Pattern

end Stratum.Time
