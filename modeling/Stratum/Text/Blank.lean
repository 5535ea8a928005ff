/-!
# Blank characters, trimming and words

What counts as white space is the Unicode property `White_Space`, all twenty-five
characters of it; `U+200B` and `U+FEFF`, which look blank, are not in it. Trimming
and splitting work on character lists, so that they can be reasoned about by
induction.

> `isBlank_of_isWhitespace`: every character that the core library calls white
> space is blank.
-/

namespace Stratum.Text

/-- The characters with the Unicode property `White_Space`. -/
def isBlank (c : Char) : Bool :=
  let n := c.val
  (0x09 ≤ n && n ≤ 0x0d) || n == 0x20 || n == 0x85 || n == 0xa0 || n == 0x1680 ||
    (0x2000 ≤ n && n ≤ 0x200a) || n == 0x2028 || n == 0x2029 || n == 0x202f ||
    n == 0x205f || n == 0x3000

/-- Every white space of ASCII is a blank. -/
theorem isBlank_of_isWhitespace {c : Char} (h : c.isWhitespace = true) : isBlank c = true := by
  simp only [Char.isWhitespace, Bool.or_eq_true, decide_eq_true_eq] at h
  rcases h with ((rfl | rfl) | rfl) | rfl <;> decide

/-- The text without leading blanks. -/
def skipBlank (s : List Char) : List Char := s.dropWhile isBlank

/-- Nothing is skipped in front of a character that is not blank. -/
theorem skipBlank_cons {c : Char} (hc : isBlank c = false) (s : List Char) :
    skipBlank (c :: s) = c :: s :=
  List.dropWhile_cons_of_neg (by rw [hc]; decide)

/-- The text without the trailing characters that satisfy `p`. -/
def dropEndWhile (p : Char → Bool) (s : List Char) : List Char :=
  (s.reverse.dropWhile p).reverse

/-- Nothing is dropped up to a character that is kept. -/
theorem dropEndWhile_append_cons {p : Char → Bool} {c : Char} (hc : p c = false)
    (s t : List Char) : dropEndWhile p (s ++ c :: t) = s ++ c :: dropEndWhile p t := by
  have hsplit : (s ++ c :: t).reverse = t.reverse ++ c :: s.reverse := by simp
  unfold dropEndWhile
  rw [hsplit, List.dropWhile_append]
  split
  next h =>
    rw [List.isEmpty_iff.1 h, List.dropWhile_cons_of_neg (by rw [hc]; simp)]
    simp
  next => simp

/-- The text without leading and trailing blanks. -/
def trim (s : List Char) : List Char := dropEndWhile isBlank (skipBlank s)

/-- The maximal runs of characters that are not blank, in order. -/
def words (s : List Char) : List (List Char) :=
  (s.splitOnP isBlank).filter (!·.isEmpty)

/-- The words joined by single spaces. -/
def unwords (ws : List (List Char)) : List Char := [' '].intercalate ws

end Stratum.Text
