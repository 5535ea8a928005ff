import Stratum.Text.Hex

/-!
# Characters, strings and keys of TOML

A layout file is TOML. This module takes keys and the four kinds of strings off the front of a
text: basic strings with escapes, literal strings without, and both over several lines.

Line ends are unified before anything else, so a carriage return that is still there is an
error wherever it stands.

> `length_keyPart?`: what follows a part of a key is shorter than the text it was taken from.
-/

namespace Stratum.Toml

/-- The text with every CR LF as a single LF. -/
def unifyLineEnds : List Char → List Char
  | '\r' :: '\n' :: r => '\n' :: unifyLineEnds r
  | c :: r => c :: unifyLineEnds r
  | [] => []

/-- Blanks inside a line. -/
def isSpace (c : Char) : Bool := c == ' ' || c == '\t'

/-- Blanks and line ends. -/
def isSpaceOrLineEnd (c : Char) : Bool := isSpace c || c == '\n'

/-- Characters that may stand in comments and in literal strings: all but controls, and of
these the tab. -/
def isPrintable (c : Char) : Bool := c == '\t' || (0x20 ≤ c.toNat && c.toNat != 0x7f)

/-- The text after its leading blanks. -/
def skipSpace (s : List Char) : List Char := s.dropWhile isSpace

/-- The character with the code point that these hexadecimal digits give. -/
def codePoint? (ds : List Char) : Option Char :=
  (Text.baseValue? 16 ds).bind fun n => if n.isValidChar then some (Char.ofNat n) else none

/-- The character that an escape with this letter stands for. -/
def escaped? (c : Char) : Option Char :=
  [('b', '\x08'), ('t', '\t'), ('n', '\n'), ('f', '\x0c'), ('r', '\r'), ('"', '"'),
    ('\\', '\\')].lookup c

/-- The escape behind a backslash, and what follows it. -/
def escape? : List Char → Option (Char × List Char)
  | 'u' :: a :: b :: c :: d :: r => (codePoint? [a, b, c, d]).map (·, r)
  | 'U' :: a :: b :: c :: d :: e :: f :: g :: h :: r =>
    (codePoint? [a, b, c, d, e, f, g, h]).map (·, r)
  | c :: r => (escaped? c).map (·, r)
  | [] => none

/-- An escape takes a character at least. -/
theorem length_escape? {s r : List Char} {c : Char} (h : escape? s = some (c, r)) :
    r.length < s.length := by
  unfold escape? at h
  split at h
  · obtain ⟨c, -, h⟩ := Option.map_eq_some_iff.1 h
    cases h; simp only [List.length_cons]; omega
  · obtain ⟨c, -, h⟩ := Option.map_eq_some_iff.1 h
    cases h; simp only [List.length_cons]; omega
  · obtain ⟨c, -, h⟩ := Option.map_eq_some_iff.1 h
    cases h; simp
  · cases h

/-- The rest of a basic string, and what follows its closing quote. -/
def basicBody? : List Char → Option (List Char × List Char)
  | [] => none
  | c :: r =>
    if c = '"' then some ([], r)
    else if c = '\\' then
      match _h : escape? r with
      | none => none
      | some (d, t) => (basicBody? t).map fun (s, t) => (d :: s, t)
    else if isPrintable c then (basicBody? r).map fun (s, t) => (c :: s, t)
    else none
termination_by s => s.length
decreasing_by
  · exact Nat.lt_succ_of_lt (length_escape? _h)
  · exact Nat.lt_succ_self _

/-- The rest of a literal string, and what follows its closing quote. -/
def literalBody? : List Char → Option (List Char × List Char)
  | [] => none
  | c :: r =>
    if c = '\'' then some ([], r)
    else if isPrintable c then (literalBody? r).map fun (s, t) => (c :: s, t)
    else none

/-- The rest of a string over several lines whose quote is `q`. Three quotes close it; up to two
more right behind them still belong to it. With `escapes`, a backslash at the end of a line
takes the line end and all blanks and line ends behind it away. -/
def multiBody? (q : Char) (escapes : Bool) : List Char → Option (List Char × List Char)
  | [] => none
  | c :: r =>
    if c = q then
      if r.take 2 = [q, q] then
        let more := ((r.drop 2).take 2).takeWhile (· == q)
        some (more, r.drop (2 + more.length))
      else (multiBody? q escapes r).map fun (s, t) => (c :: s, t)
    else if escapes && c = '\\' then
      if (skipSpace r).head? = some '\n' then multiBody? q escapes (r.dropWhile isSpaceOrLineEnd)
      else
        match _h : escape? r with
        | none => none
        | some (d, t) => (multiBody? q escapes t).map fun (s, t) => (d :: s, t)
    else if isPrintable c || c = '\n' then (multiBody? q escapes r).map fun (s, t) => (c :: s, t)
    else none
termination_by s => s.length
decreasing_by
  · exact Nat.lt_succ_self _
  · exact Nat.lt_succ_of_le (List.dropWhile_sublist _).length_le
  · exact Nat.lt_succ_of_lt (length_escape? _h)
  · exact Nat.lt_succ_self _

/-- The text without a line end right at its front. -/
def dropLineEnd : List Char → List Char
  | '\n' :: r => r
  | s => s

/-- A string on one line. -/
def lineString? : List Char → Option (List Char × List Char)
  | '"' :: r => basicBody? r
  | '\'' :: r => literalBody? r
  | _ => none

/-- A string of any kind; a line end right behind three opening quotes does not count. -/
def string? : List Char → Option (List Char × List Char)
  | '"' :: '"' :: '"' :: r => multiBody? '"' true (dropLineEnd r)
  | '\'' :: '\'' :: '\'' :: r => multiBody? '\'' false (dropLineEnd r)
  | s => lineString? s

/-- Characters of a key without quotes. -/
def isKeyChar (c : Char) : Bool := c.isAlphanum || c == '-' || c == '_'

/-- One part of a key, with quotes or without. -/
def keyPart? (s : List Char) : Option (String × List Char) :=
  match s with
  | [] => none
  | c :: _ =>
    if c = '"' || c = '\'' then (lineString? s).map fun (k, r) => (String.ofList k, r)
    else
      let k := s.takeWhile isKeyChar
      if k.isEmpty then none else some (String.ofList k, s.dropWhile isKeyChar)

/-- A string takes its closing quote at least. -/
theorem length_basicBody? {s p r : List Char} (h : basicBody? s = some (p, r)) :
    r.length < s.length := by
  fun_induction basicBody? s generalizing p r with
  | case1 => cases h
  | case2 => cases h; simp
  | case3 => cases h
  | case4 t d u he _ ih =>
    obtain ⟨⟨q, v⟩, hq, hp⟩ := Option.map_eq_some_iff.1 h
    cases hp
    have := ih hq
    have := length_escape? he
    simp only [List.length_cons] at *
    omega
  | case5 _ _ _ _ _ ih =>
    obtain ⟨⟨q, v⟩, hq, hp⟩ := Option.map_eq_some_iff.1 h
    cases hp
    exact Nat.lt_succ_of_lt (ih hq)
  | case6 => cases h

/-- So does a literal string. -/
theorem length_literalBody? {s p r : List Char} (h : literalBody? s = some (p, r)) :
    r.length < s.length := by
  fun_induction literalBody? s generalizing p r with
  | case1 => cases h
  | case2 => cases h; simp
  | case3 _ _ _ _ ih =>
    obtain ⟨⟨q, v⟩, hq, hp⟩ := Option.map_eq_some_iff.1 h
    cases hp
    exact Nat.lt_succ_of_lt (ih hq)
  | case4 => cases h

/-- A string on one line takes both of its quotes. -/
theorem length_lineString? {s p r : List Char} (h : lineString? s = some (p, r)) :
    r.length < s.length := by
  unfold lineString? at h
  split at h
  · exact Nat.lt_succ_of_lt (length_basicBody? h)
  · exact Nat.lt_succ_of_lt (length_literalBody? h)
  · cases h

/-- A part of a key takes a character at least. -/
theorem length_keyPart? {s r : List Char} {k : String} (h : keyPart? s = some (k, r)) :
    r.length < s.length := by
  unfold keyPart? at h
  split at h
  · cases h
  · next c t =>
    split at h
    · obtain ⟨⟨q, v⟩, hq, hp⟩ := Option.map_eq_some_iff.1 h
      cases hp
      exact length_lineString? hq
    · simp only at h
      split at h
      · cases h
      · next hk =>
        cases h
        by_cases hc : isKeyChar c = true
        · rw [List.dropWhile_cons_of_pos hc]
          exact Nat.lt_succ_of_le (List.dropWhile_sublist _).length_le
        · simp [hc] at hk

end Stratum.Toml
