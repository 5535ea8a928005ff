import Stratum.Text.Hex
import Stratum.Text.Numeral
import Stratum.Web.Error

/-!
# Numeric hosts

A host can be a number. Four parts with full stops between them, or fewer parts of which the
last is longer, each of them decimal, octal or hexadecimal, make an IPv4 address; hexadecimal
groups between brackets make an IPv6 address, of which one run of zeros may be left out.

> `splitOn_ipv4Text`: an address is written as the decimal numerals of its four bytes.
-/

namespace Stratum.Address

open Text

/-! ## IPv4 -/

/-- One part of an IPv4 address; without digits behind its base mark it is zero. -/
def part? : List Char → Option Nat
  | [] => none
  | '0' :: 'x' :: r => baseValue? 16 r
  | '0' :: 'X' :: r => baseValue? 16 r
  | '0' :: d :: r => baseValue? 8 (d :: r)
  | s => baseValue? 10 s

/-- The pieces of a host between its full stops, without an empty one at the end. -/
def pieces (host : List Char) : List (List Char) :=
  let ps := host.splitOn '.'
  if ps.length > 1 && ps.getLast? == some [] then ps.dropLast else ps

/-- Whether a host has to be an IPv4 address, because its last piece is a number. -/
def endsInNumber (host : List Char) : Bool :=
  match (pieces host).getLast? with
  | none => false
  | some [] => false
  | some p => p.all Char.isDigit || (part? p).isSome

/-- The address with these parts: all but the last are bytes, and the last fills what is left. -/
def ofParts? (parts : List Nat) : Option Nat :=
  match parts.getLast? with
  | none => none
  | some last =>
    let front := parts.dropLast
    let room := Nat.pow 256 (4 - front.length)
    if 4 < parts.length || front.any (255 < ·) || room ≤ last then none
    else some (front.foldl (fun acc n => acc * 256 + n) 0 * room + last)

/-- The IPv4 address that a host denotes. -/
def ipv4? (host : List Char) : Except UrlError Nat :=
  match ((pieces host).mapM part?).bind ofParts? with
  | some n => .ok n
  | none => .error .badIpv4

/-- An IPv4 address as four decimal bytes. -/
def ipv4Text (n : Nat) : List Char :=
  ['.'].intercalate ([16777216, 65536, 256, 1].map fun k => Numeral.digits (n / k % 256))

/-! ## IPv6 -/

/-- The value of a group of one to four hexadecimal digits. -/
def group? (s : List Char) : Option Nat :=
  if s.isEmpty || 4 < s.length then none else baseValue? 16 s

/-- A byte of the dotted end of an IPv6 address: decimal, without leading zeros. -/
def dottedByte? (s : List Char) : Option Nat :=
  if s.head? == some '0' && s.length != 1 then none
  else (Numeral.readNat? s).bind fun n => if n < 256 then some n else none

/-- The two groups that four bytes with full stops between them stand for. -/
def dotted? (s : List Char) : Option (List Nat) :=
  match (s.splitOn '.').mapM dottedByte? with
  | some [a, b, c, d] => some [a * 256 + b, c * 256 + d]
  | _ => none

/-- Groups with colons between them; the last of them may be dotted if `last` says so. -/
def groups? (last : Bool) : List (List Char) → Option (List Nat)
  | [] => some []
  | [g] => if last && g.contains '.' then dotted? g else (group? g).map ([·])
  | g :: gs => (group? g).bind fun n => (groups? last gs).map (n :: ·)

/-- The groups of a text without a run that is left out; an empty text has none. -/
def run? (last : Bool) (s : List Char) : Option (List Nat) :=
  if s.isEmpty then some [] else groups? last (s.splitOn ':')

/-- What stands before and behind the first two colons in a row. -/
def splitRun? : List Char → Option (List Char × List Char)
  | ':' :: ':' :: r => some ([], r)
  | c :: r => (splitRun? r).map fun (a, b) => (c :: a, b)
  | [] => none

/-- The eight groups of an IPv6 address. -/
def ipv6? (s : List Char) : Except UrlError (List Nat) :=
  let gs := match splitRun? s with
    | none => (groups? true (s.splitOn ':')).filter (·.length == 8)
    | some (a, b) => do
      let front ← run? false a
      let back ← run? true b
      let room := 8 - (front.length + back.length)
      if 8 ≤ front.length + back.length then none
      else some (front ++ List.replicate room 0 ++ back)
  match gs with
  | some gs => .ok gs
  | none => .error .badIpv6

/-- How many zeros are at the front. -/
def zeros (gs : List Nat) : Nat := (gs.takeWhile (· == 0)).length

/-- The longest run of two or more zeros: where it starts and how long it is. The first of
several is taken. -/
def longestRun : Nat → List Nat → Nat × Nat
  | _, [] => (0, 0)
  | i, g :: gs =>
    let rest := longestRun (i + 1) gs
    let here := zeros (g :: gs)
    if 2 ≤ here && rest.2 ≤ here then (i, here) else rest

/-- Groups with colons between them. -/
def groupsText (gs : List Nat) : List Char := [':'].intercalate (gs.map (Nat.toDigits 16))

/-- An IPv6 address between brackets, its longest run of zeros left out. -/
def ipv6Text (gs : List Nat) : List Char :=
  let (start, length) := longestRun 0 gs
  let body :=
    if length = 0 then groupsText gs
    else groupsText (gs.take start) ++ [':', ':'] ++ groupsText (gs.drop (start + length))
  '[' :: body ++ [']']

/-- Between the full stops of an address are the decimal numerals of its four bytes. -/
theorem splitOn_ipv4Text (n : Nat) : (ipv4Text n).splitOn '.' =
    [16777216, 65536, 256, 1].map fun k => Numeral.digits (n / k % 256) := by
  refine List.splitOn_intercalate '.' (fun part hpart hdot => ?_) (by simp)
  obtain ⟨k, -, rfl⟩ := List.mem_map.1 hpart
  have hdigit := List.all_eq_true.1 (Numeral.all_isDigit_digits (n / k % 256)) _ hdot
  exact absurd hdigit (by decide)

end Stratum.Address
