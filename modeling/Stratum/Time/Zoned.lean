import Stratum.Time.Instant
import Stratum.Time.Scan

/-!
# Times with a zone: the Internet form and the mail form

The Internet form (RFC 3339) has fixed widths and a numeric offset. The mail form
(RFC 2822) is looser: an optional weekday, years of two digits and more, seconds that can
be left out, zone names, and comments in parentheses at the end. Both denote an instant by
themselves.

> `Mail.skipComment_length`: every comment that is skipped leaves less text, so skipping ends.
-/

namespace Stratum.Time

open Scan Text

namespace Zone

/-- Signs of a numeric offset; the true minus sign is one only where `minusSign` says so. -/
def sign (minusSign : Bool) : List Char → Option (Int × List Char)
  | '+' :: r => some (1, r)
  | '-' :: r => some (-1, r)
  | '\u2212' :: r => if minusSign then some (-1, r) else none
  | _ => none

/-- A numeric offset in seconds: sign, two digits of hours, a colon where `colon` says so,
and two digits of minutes below sixty. -/
def offset (colon : Bool) (s : List Char) : Option (Int × List Char) := do
  let (sgn, s) ← sign colon s
  let (h, s) ← number 2 2 s
  let s ← if colon then literal ':' s else some s
  let (m, s) ← number 2 2 s
  if m < 60 then some (sgn * (h * 3600 + m * 60 : Nat), s) else none

/-- The zones that have names of more than one letter, with their offsets in hours. -/
def named : List (String × Int) :=
  [("gmt", 0), ("ut", 0), ("z", 0), ("edt", -4), ("est", -5), ("cdt", -5), ("cst", -6),
   ("mdt", -6), ("mst", -7), ("pdt", -7), ("pst", -8)]

/-- Letters that stand for a zone by themselves; all but `J` do, and count as no offset. -/
def isLetterZone (name : List Char) : Bool := name.length == 1 && name != ['j']

/-- A zone name in any case. -/
def ofName? (name : List Char) : Option Int :=
  let n := name.map Char.toLower
  match named.lookup (String.ofList n) with
  | some h => some (h * 3600)
  | none => if isLetterZone n then some 0 else none

/-- The zone of the mail form: a name, or an offset without colon. -/
def mail (s : List Char) : Option (Int × List Char) :=
  let name := s.takeWhile Char.isAlpha
  if name.isEmpty then offset false s
  else (ofName? name).map fun o => (o, s.drop name.length)

/-- The zone of the Internet form: the letter Z, or an offset with colon. -/
def internet (s : List Char) : Option (Int × List Char) :=
  match s with
  | 'Z' :: r | 'z' :: r => some (0, r)
  | s => offset true s

end Zone

/-! ## The Internet form -/

namespace Internet

/-- Separators between the date and the time of day. -/
def separator : List Char → Option (List Char)
  | 'T' :: r | 't' :: r | ' ' :: r => some r
  | _ => none

/-- The fields of a text in the Internet form. -/
def fields? (s : List Char) : Option Fields := do
  let (year, s) ← number 4 4 s
  let s ← literal '-' s
  let (month, s) ← number 2 2 s
  let s ← literal '-' s
  let (day, s) ← number 2 2 s
  let s ← separator s
  let (hour, s) ← number 2 2 s
  let s ← literal ':' s
  let (minute, s) ← number 2 2 s
  let s ← literal ':' s
  let (second, s) ← number 2 2 s
  let (fraction, s) ← optionalFraction s
  let (offset, s) ← Zone.internet s
  if s.isEmpty then
    some { year, month, day, hour, minute, second, fraction, offset }
  else none

/-- The instant of a text in the Internet form. -/
def read? (s : List Char) : Option Instant := (fields? s).bind Fields.instant?

end Internet

/-! ## The mail form -/

namespace Mail

/-- A comment's state after one more character: how many parentheses are open, and whether
a backslash takes the next character's meaning away. -/
def commentEnd : Nat → Bool → List Char → Option (List Char)
  | _, _, [] => none
  | depth, true, _ :: r => commentEnd depth false r
  | depth, false, c :: r =>
    if c = '\\' then commentEnd depth true r
    else if c = '(' then commentEnd (depth + 1) false r
    else if c = ')' then if depth = 1 then some r else commentEnd (depth - 1) false r
    else commentEnd depth false r

/-- The end of a comment lies behind a closing bracket. -/
theorem commentEnd_length {depth : Nat} {esc : Bool} {s r : List Char}
    (h : commentEnd depth esc s = some r) : r.length < s.length := by
  fun_induction commentEnd depth esc s with
  | case1 => exact absurd h (by simp)
  | case2 _ _ _ ih => exact Nat.lt_succ_of_lt (ih h)
  | case3 _ _ ih => exact Nat.lt_succ_of_lt (ih h)
  | case4 _ _ _ ih => exact Nat.lt_succ_of_lt (ih h)
  | case5 => obtain rfl := Option.some.inj h; exact Nat.lt_succ_self _
  | case6 _ _ _ _ _ ih => exact Nat.lt_succ_of_lt (ih h)
  | case7 _ _ _ _ _ _ ih => exact Nat.lt_succ_of_lt (ih h)

/-- The text after one comment, blanks before it included, if there is one. -/
def skipComment (s : List Char) : Option (List Char) :=
  (literal '(' (skipBlank s)).bind (commentEnd 1 false)

/-- Skipping a comment leaves less text. -/
theorem skipComment_length {s r : List Char} (h : skipComment s = some r) :
    r.length < s.length := by
  obtain ⟨t, ht, hr⟩ := Option.bind_eq_some_iff.1 h
  have hlen : (skipBlank s).length ≤ s.length := (List.dropWhile_sublist _).length_le
  cases hs : skipBlank s with
  | nil => rw [hs] at ht; exact absurd ht (by simp [literal])
  | cons c u =>
    rw [hs] at ht hlen
    simp only [literal] at ht
    split at ht
    · obtain rfl := Option.some.inj ht
      have := commentEnd_length hr
      simp only [List.length_cons] at hlen
      omega
    · exact absurd ht (by simp)

/-- The text after all comments. -/
def skipComments (s : List Char) : List Char :=
  match _h : skipComment s with
  | some r => skipComments r
  | none => s
termination_by s.length
decreasing_by exact skipComment_length _h

/-- The year that `n`, written with that many digits, means: two digits are this century's
up to 49 and the last one's from 50 on, three digits count from 1900. -/
def fullYear (digits n : Nat) : Nat :=
  if digits = 2 then if n < 50 then n + 2000 else n + 1900
  else if digits = 3 then n + 1900
  else n

/-- A weekday and the comma directly after it, or nothing; a weekday without a comma is an
error. -/
def optionalWeekday (s : List Char) : Option (Option Nat × List Char) :=
  match weekday s with
  | some (w, r) => (literal ',' r).map fun r => (some w, r)
  | none => some (none, s)

/-- Seconds directly after a colon that may have blanks before it, or nothing. -/
def optionalSecond (s : List Char) : Option (Nat × List Char) :=
  match literal ':' (skipBlank s) with
  | some r => number 2 2 r
  | none => some (0, s)

/-- The fields of a text in the mail form. -/
def fields? (s : List Char) : Option Fields := do
  let (weekday, s) ← optionalWeekday (skipBlank s)
  let (day, s) ← number 1 2 (skipBlank s)
  let s ← blanks s
  let (month, s) ← Scan.month s
  let s ← blanks s
  let (n, rest) ← longNumber 2 s
  let year := fullYear (s.length - rest.length) n
  let s ← blanks rest
  let (hour, s) ← number 2 2 s
  let s ← literal ':' (skipBlank s)
  let (minute, s) ← number 2 2 (skipBlank s)
  let (second, s) ← optionalSecond s
  let s ← blanks s
  let (offset, s) ← Zone.mail s
  if (skipComments s).isEmpty then
    some { year, month, day, hour, minute, second, weekday, offset }
  else none

/-- The instant of a text in the mail form. -/
def read? (s : List Char) : Option Instant := (fields? s).bind Fields.instant?

end Mail

end Stratum.Time
