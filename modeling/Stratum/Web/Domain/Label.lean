import Stratum.Web.Domain.Normal

/-!
# Labels of domain names

Which labels a domain name may have. A label is in composed form, holds valid characters only,
and does not start with a mark. Invisible joiners stand only where they change how letters join.
In a domain name with letters that are read from right to left, every label has one direction.

> `not_mixed_of_isReadable`: no label has letters of both directions.
-/

namespace Stratum.Domain

/-! ## Tables of properties -/

/-- Characters that a label may hold. -/
def validRuns : List Table.Run := Table.runs validText

/-- Marks, which combine with the character before them. -/
def markRuns : List Table.Run := Table.runs markText

/-- Letters that are read from right to left. -/
def rightToLeftRuns : List Table.Run := Table.runs rightToLeftText

/-- Arabic letters. -/
def arabicLetterRuns : List Table.Run := Table.runs arabicLetterText

/-- Arabic digits. -/
def arabicNumberRuns : List Table.Run := Table.runs arabicNumberText

/-- European digits. -/
def europeanNumberRuns : List Table.Run := Table.runs europeanNumberText

/-- Characters that take the direction of those around them. -/
def weakRuns : List Table.Run :=
  Table.runs numberSignText ++ Table.runs numberSeparatorText ++ Table.runs numberTerminatorText ++
    Table.runs neutralText ++ Table.runs boundaryText

/-- Marks without width, which count for no direction. -/
def spacinglessRuns : List Table.Run := Table.runs spacinglessText

/-- Letters that join on both sides. -/
def dualJoiningRuns : List Table.Run := Table.runs dualJoiningText

/-- Letters that join on their left side only. -/
def leftJoiningRuns : List Table.Run := Table.runs leftJoiningText

/-- Letters that join on their right side only. -/
def rightJoiningRuns : List Table.Run := Table.runs rightJoiningText

/-- Characters over which letters join. -/
def transparentRuns : List Table.Run := Table.runs transparentText

/-! ## Joiners -/

/-- The place among marks of the sign that silences a vowel. -/
def viramaClass : Nat := 9

/-- Whether the letters around a place join over it: `before` is what stands before it, the last
character first. -/
def joinsOver (before after : List Char) : Bool :=
  let next (s : List Char) := (s.dropWhile (Table.contains transparentRuns)).head?
  (next before).any (fun c => Table.contains leftJoiningRuns c || Table.contains dualJoiningRuns c) &&
    (next after).any fun c =>
      Table.contains rightJoiningRuns c || Table.contains dualJoiningRuns c

/-- Whether the joiners of a text stand where they may; `before` is what stands before it, the
last character first. -/
def joinersFit (before : List Char) : List Char → Bool
  | [] => true
  | c :: r =>
    let virama := before.head?.any fun b => markClass b == viramaClass
    (if c = '\u200c' then virama || joinsOver before r
      else if c = '\u200d' then virama else true) && joinersFit (c :: before) r

/-! ## Direction -/

/-- How a character takes part in the direction of a label. -/
inductive Direction where
  | left
  | right
  | arabicNumber
  | europeanNumber
  /-- Numbers' signs, and characters without a direction. -/
  | weak
  /-- Marks that take the direction of what they stand on. -/
  | spacingless
deriving DecidableEq, Repr

/-- The direction of a character. -/
def direction (c : Char) : Direction :=
  if Table.contains rightToLeftRuns c || Table.contains arabicLetterRuns c then .right
  else if Table.contains arabicNumberRuns c then .arabicNumber
  else if Table.contains europeanNumberRuns c then .europeanNumber
  else if Table.contains weakRuns c then .weak
  else if Table.contains spacinglessRuns c then .spacingless
  else .left

/-- Whether a label has characters that are read from right to left. -/
def isBidi (s : List Char) : Bool :=
  s.any fun c => direction c == .right || direction c == .arabicNumber

/-- Whether directions of characters make up a label with one direction. -/
def isReadable (ds : List Direction) : Bool :=
  let last := (ds.reverse.dropWhile (· == .spacingless)).head?
  match ds.head? with
  | none => true
  | some .right =>
    ds.all (· != .left) && last.any (fun d => d == .right || d == .europeanNumber || d == .arabicNumber) &&
      !(ds.contains .europeanNumber && ds.contains .arabicNumber)
  | some .left =>
    ds.all (fun d => d != .right && d != .arabicNumber) &&
      last.any fun d => d == .left || d == .europeanNumber
  | some _ => false

/-! ## Labels -/

/-- Whether a label of characters may stand in a domain name. -/
def isLabel (s : List Char) : Bool :=
  s.all (Table.contains validRuns) && compose s == s &&
    !s.head?.any (Table.contains markRuns) && joinersFit [] s

/-- Letters of both directions are in no label. -/
theorem not_mixed_of_isReadable {ds : List Direction} (h : isReadable ds = true)
    (hleft : .left ∈ ds) : .right ∉ ds := by
  intro hright
  unfold isReadable at h
  dsimp only at h
  split at h
  next hnone =>
    rw [List.head?_eq_none_iff.1 hnone] at hleft
    cases hleft
  next =>
    simp only [Bool.and_eq_true, List.all_eq_true] at h
    exact absurd (h.1.1 _ hleft) (by decide)
  next =>
    simp only [Bool.and_eq_true, List.all_eq_true] at h
    exact absurd (h.1 _ hright) (by decide)
  next => cases h

end Stratum.Domain
