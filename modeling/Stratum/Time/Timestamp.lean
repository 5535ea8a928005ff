import Stratum.Time.Pattern
import Stratum.Time.Zoned

/-!
# Timestamps as markers hold them

A marker is one line with a time in one of six forms. They are tried in a fixed order, and
the first that takes the whole text gives the instant. Three of them are patterns without a
zone, whose time is UTC; so is the form of the `date` command, from which the name of the
zone is dropped.

> `read?_eq_some_iff`: a text has the instant of the first form that takes it.
-/

namespace Stratum.Time

open Text

/-- The spellings of a time that are read. -/
inductive Form where
  /-- `2020-01-01T00:00:00Z` -/
  | internet
  /-- `Wed, 01 Jan 2020 00:00:00 +0000` -/
  | mail
  /-- `Wed Jan  1 00:00:00 UTC 2020` -/
  | dateCommand
  /-- `2020-01-01 00:00:00` -/
  | spaced
  /-- `2020-01-01T00:00:00` -/
  | joined
  /-- `2020-01-01 00:00:00.5` -/
  | spacedFraction
deriving DecidableEq, Repr

namespace Form

/-- All forms, in the order in which they are tried. -/
def all : List Form := [internet, mail, dateCommand, spaced, joined, spacedFraction]

/-- What the `date` command prints, the zone dropped. -/
def datePattern : List Item :=
  [.weekday, .blank, .monthName, .blank, .day, .blank] ++ Pattern.clock ++ [.blank, .year]

/-- Six words without the fifth, one space between them. -/
def withoutZone? (s : List Char) : Option (List Char) :=
  match words s with
  | [weekday, month, day, clock, _, year] => some (unwords [weekday, month, day, clock, year])
  | _ => none

/-- The instant of a text in this form. -/
def read? (s : List Char) : Form → Option Instant
  | internet => Internet.read? s
  | mail => Mail.read? s
  | dateCommand => (withoutZone? s).bind (Pattern.read? datePattern)
  | spaced => Pattern.read? (Pattern.date ++ [.blank] ++ Pattern.clock) s
  | joined => Pattern.read? (Pattern.date ++ [.literal 'T'] ++ Pattern.clock) s
  | spacedFraction => Pattern.read? (Pattern.date ++ [.blank] ++ Pattern.clock ++ [.fraction]) s

end Form

namespace Timestamp

/-- The instant of a text in any of the forms, surrounding blanks aside. -/
def read? (s : List Char) : Option Instant := Form.all.findSome? (Form.read? (trim s))

/-- A text has the instant of the first form that takes it. -/
theorem read?_eq_some_iff {s : List Char} {t : Instant} :
    read? s = some t ↔ ∃ before form after, Form.all = before ++ form :: after ∧
      Form.read? (trim s) form = some t ∧ ∀ g ∈ before, Form.read? (trim s) g = none := by
  unfold read?
  rw [List.findSome?_eq_some_iff]

end Timestamp

end Stratum.Time
