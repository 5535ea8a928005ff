import Stratum.Web.Domain.Composition
import Stratum.Web.Domain.Property

/-!
# The composed form of a text

A letter with marks can be spelled in several ways. In the composed form the marks are in a
fixed order and every letter has taken up the marks that it can. The form is reached by taking
all characters apart, sorting the marks, and putting together again what goes together.

> `reorder_perm`: no mark is lost when they are put in order.
-/

namespace Stratum.Domain

/-- The places of marks among marks. -/
def classes : List Table.Run := Table.runs classText

/-- The place of a character among marks; zero for what is no mark with a place. -/
def markClass (c : Char) : Nat := ((Table.targets? classes c).bind List.head?).getD 0

/-- Two characters, and the one that stands for both. -/
structure Pair where
  first : Char
  second : Char
  whole : Char
deriving DecidableEq, Repr

namespace Pair

/-- Reads a pair from a word of its table. -/
def ofWord? (word : List Char) : Option Pair :=
  match (word.splitOnP fun c => c == '.' || c == '=').map Table.hexNumber with
  | [a, b, c] => some ⟨Char.ofNat a, Char.ofNat b, Char.ofNat c⟩
  | _ => none

/-- All pairs of the table. -/
def all : List Pair := (Table.words pairText).filterMap ofWord?

end Pair

/-! ## Hangul -/

namespace Hangul

/-- The first syllable. -/
def base : Nat := 0xac00

/-- How many syllables there are. -/
def count : Nat := 11172

/-- The syllable of a leading consonant and a vowel, or of such a syllable and a trailing
consonant. -/
def compose? (a b : Nat) : Option Nat :=
  if 0x1100 ≤ a ∧ a < 0x1113 ∧ 0x1161 ≤ b ∧ b < 0x1176 then
    some (base + ((a - 0x1100) * 21 + (b - 0x1161)) * 28)
  else if base ≤ a ∧ a < base + count ∧ (a - base) % 28 = 0 ∧ 0x11a7 < b ∧ b < 0x11c3 then
    some (a + (b - 0x11a7))
  else none

end Hangul

/-- The character that stands for two, if there is one. -/
def compose? (a b : Char) : Option Char :=
  match Hangul.compose? a.toNat b.toNat with
  | some n => some (Char.ofNat n)
  | none => (Pair.all.find? fun p => p.first = a ∧ p.second = b).map Pair.whole

/-- The parts of a character, taken apart `n` times at the most. -/
def decompose : Nat → Char → List Char
  | 0, c => [c]
  | n + 1, c =>
    match Pair.all.find? (·.whole = c) with
    | some p => decompose n p.first ++ [p.second]
    | none => [c]

/-- How often a character can be taken apart. -/
def decompositionDepth : Nat := 4

/-- Puts a character before a text whose marks are in order, behind the marks that go first. -/
def insertMark (c : Char) : List Char → List Char
  | [] => [c]
  | d :: r =>
    if 0 < markClass d && markClass d < markClass c then d :: insertMark c r else c :: d :: r

/-- The text with its marks in order. -/
def reorder (s : List Char) : List Char := s.foldr insertMark []

/-- Puts characters together: `start` is the last character that is no mark, `marks` are those
after it that it has not taken up, the last first. A mark is taken up unless another one of the
same place stands between. -/
def composeFrom (start : Char) (marks : List Char) : List Char → List Char
  | [] => start :: marks.reverse
  | c :: r =>
    -- The marks are in order, so the last of them has the greatest place.
    let free := match marks with
      | [] => true
      | m :: _ => markClass m < markClass c
    match if free then compose? start c else none with
    | some whole => composeFrom whole marks r
    | none =>
      -- A character that is no mark starts anew; a mark has to wait for another start.
      if markClass c = 0 then start :: marks.reverse ++ composeFrom c [] r
      else composeFrom start (c :: marks) r

/-- Puts characters together, after marks at the front that stand on nothing. -/
def composeAll (s : List Char) : List Char :=
  let marks := s.takeWhile (0 < markClass ·)
  match s.drop marks.length with
  | [] => s
  | c :: r => marks ++ composeFrom c [] r

/-- The composed form. -/
def compose (s : List Char) : List Char :=
  composeAll (reorder (s.flatMap (decompose decompositionDepth)))

/-- A character is put in with those that are there. -/
theorem insertMark_perm (c : Char) (s : List Char) : (insertMark c s).Perm (c :: s) := by
  induction s with
  | nil => exact List.Perm.refl _
  | cons d r ih =>
    unfold insertMark
    split
    · exact (ih.cons d).trans (List.Perm.swap c d r)
    · exact List.Perm.refl _

/-- To put the marks in order neither loses nor adds any. -/
theorem reorder_perm (s : List Char) : (reorder s).Perm s := by
  induction s with
  | nil => exact List.Perm.refl _
  | cons c r ih => exact (insertMark_perm c (reorder r)).trans (ih.cons c)

end Stratum.Domain
