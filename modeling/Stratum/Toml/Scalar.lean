import Stratum.Text.Hex
import Stratum.Time.Calendar
import Stratum.Time.Scan

/-!
# Scalars of TOML that are no strings

Truth values, integers, floating-point numbers, dates and times. A layout holds none of them,
so they are checked for being well-formed and nothing is kept: `isScalar` says of a whole word
whether it is one of them.
-/

namespace Stratum.Toml

open Text Time

/-- One or more digits, with single underscores between digits. -/
def isDigitRun (isDigit : Char → Bool) : List Char → Bool
  | [] => false
  | [c] => isDigit c
  | c :: '_' :: r => isDigit c && isDigitRun isDigit r
  | c :: r => isDigit c && isDigitRun isDigit r

/-- The digits of a run. -/
def runDigits (s : List Char) : List Char := s.filter (· != '_')

/-- The text after a sign, if there is one. -/
def dropSign : List Char → List Char
  | '+' :: r => r
  | '-' :: r => r
  | s => s

/-- A decimal numeral: a run of digits that starts with a zero only if it is the zero. -/
def isWhole (s : List Char) : Bool := isDigitRun Char.isDigit s && (s.head? != some '0' || s == ['0'])

/-- The digits of a base. -/
def isBaseDigit (base : Nat) (c : Char) : Bool := (hexValue? c).any (· < base)

/-- How great the absolute value of an integer may be; the one that is as great is negative. -/
def integerBound : Nat := Nat.pow 2 63

/-- A numeral in another base. -/
def isBased (base : Nat) (s : List Char) : Bool :=
  isDigitRun (isBaseDigit base) s && (baseValue? base (runDigits s)).any (· < integerBound)

/-- A decimal integer that fits into 64 bits. -/
def isDecimal (s : List Char) : Bool :=
  let n := Numeral.value (runDigits (dropSign s))
  isWhole (dropSign s) && n < integerBound + (if s.head? = some '-' then 1 else 0)

/-- An integer. -/
def isInteger : List Char → Bool
  | '0' :: 'x' :: r => isBased 16 r
  | '0' :: 'o' :: r => isBased 8 r
  | '0' :: 'b' :: r => isBased 2 r
  | s => isDecimal s

/-- The least number that is rounded to infinity in binary floating point of 64 bits. -/
def floatBound : Nat := Nat.pow 2 1024 - Nat.pow 2 970

/-- Whether `digits · 10 ^ scale` is rounded to infinity. A number with digits is at least one
before it is scaled, and every further digit makes it ten times greater at the most. -/
def overflows (digits : List Char) (scale : Int) : Bool :=
  let n := Numeral.value digits
  if n = 0 then false
  else if 400 < scale then true
  else if scale + digits.length < 300 then false
  else if 0 ≤ scale then floatBound ≤ n * Nat.pow 10 scale.toNat
  else floatBound * Nat.pow 10 (-scale).toNat ≤ n

/-- The value of an exponent. -/
def exponentValue (s : List Char) : Int :=
  let n : Int := Numeral.value (runDigits (dropSign s))
  if s.head? = some '-' then -n else n

/-- Whether a character starts an exponent. -/
def isExponentMark (c : Char) : Bool := c == 'e' || c == 'E'

/-- What stands before the first character that satisfies `p`, and what stands behind it, if
there is such a character. -/
def splitFirst (p : Char → Bool) (s : List Char) : List Char × Option (List Char) :=
  let before := s.takeWhile (!p ·)
  (before, match s.drop before.length with
    | _ :: r => some r
    | [] => none)

/-- A floating-point number without sign: digits with a fraction, an exponent or both. -/
def isUnsignedFloat (negative : Bool) (s : List Char) : Bool :=
  let (mantissa, exponent) := splitFirst isExponentMark s
  let (whole, fraction) := splitFirst (· == '.') mantissa
  let digits := runDigits (whole ++ fraction.getD [])
  let places := (runDigits (fraction.getD [])).length
  isWhole whole && (fraction.isSome || exponent.isSome) &&
    fraction.all (isDigitRun Char.isDigit) &&
    exponent.all (fun e => isDigitRun Char.isDigit (dropSign e)) &&
    (negative || !overflows digits ((exponent.map exponentValue).getD 0 - places))

/-- A floating-point number; a positive one must not be too great. -/
def isFloat (s : List Char) : Bool :=
  let r := dropSign s
  isUnsignedFloat (s.head? == some '-') r || r == ['i', 'n', 'f'] || r == ['n', 'a', 'n']

/-- What follows a date. -/
def afterDate? (s : List Char) : Option (List Char) := do
  let (y, s) ← Scan.number 4 4 s
  let s ← Scan.literal '-' s
  let (m, s) ← Scan.number 2 2 s
  let s ← Scan.literal '-' s
  let (d, s) ← Scan.number 2 2 s
  let _ ← Date.of? y m d
  return s

/-- What follows a number of two digits up to `limit`. -/
def afterField? (limit : Nat) (s : List Char) : Option (List Char) :=
  (Scan.number 2 2 s).bind fun (n, r) => if n ≤ limit then some r else none

/-- What follows a time of day. -/
def afterClock? (s : List Char) : Option (List Char) := do
  let s ← afterField? 23 s
  let s ← Scan.literal ':' s
  let s ← afterField? 59 s
  let s ← Scan.literal ':' s
  let s ← afterField? 60 s
  let (_, s) ← Scan.optionalFraction s
  return s

/-- An offset from UTC. -/
def isOffset : List Char → Bool
  | [c] => c == 'Z' || c == 'z'
  | c :: r =>
    (c == '+' || c == '-') &&
      ((afterField? 23 r).bind fun r => (Scan.literal ':' r).bind (afterField? 59)) == some []
  | [] => false

/-- A time of day, behind a date also with an offset. -/
def isClock (offset : Bool) (s : List Char) : Bool :=
  match afterClock? s with
  | some r => r.isEmpty || (offset && isOffset r)
  | none => false

/-- A date, a time, or both with a letter T or a space between them. -/
def isTime (s : List Char) : Bool :=
  match afterDate? s with
  | some [] => true
  | some (c :: r) => (c == 'T' || c == 't' || c == ' ') && isClock true r
  | none => isClock false s

/-- Whether a word is a scalar other than a string. -/
def isScalar (s : List Char) : Bool :=
  s == "true".toList || s == "false".toList || isInteger s || isFloat s || isTime s

/-- Characters that end a word. -/
def isWordEnd (c : Char) : Bool := [' ', '\t', '\n', '\r', ',', ']', '\x7d', '#'].contains c

/-- The word at the front of a text; a date and a time of day with a space between them are
one word. -/
def word (s : List Char) : List Char :=
  let w := s.takeWhile (!isWordEnd ·)
  match s.drop w.length with
  | ' ' :: r =>
    let long := w ++ ' ' :: r.takeWhile (!isWordEnd ·)
    if afterDate? w == some [] && isTime long then long else w
  | _ => w

/-- What follows the scalar at the front. -/
def afterScalar? (s : List Char) : Option (List Char) :=
  let w := word s
  if isScalar w then some (s.drop w.length) else none

end Stratum.Toml
