/-!
# Punycode

A label of a domain name that has other than ASCII characters is written in ASCII: its ASCII
characters first, and then where the others go, in ascending order of the characters. Each step
is a number in digits of a base that adapts itself to the steps before.

> `length_number?`: a number takes a digit at least, so reading comes to an end.
-/

namespace Stratum.Domain.Punycode

/-- The digit for a value below 36. -/
def digitChar (d : Nat) : Char := if d < 26 then Char.ofNat (97 + d) else Char.ofNat (22 + d)

/-- The value of a digit, in either case. -/
def digitValue? (c : Char) : Option Nat :=
  let n := c.toNat
  if 97 ≤ n ∧ n ≤ 122 then some (n - 97)
  else if 65 ≤ n ∧ n ≤ 90 then some (n - 65)
  else if 48 ≤ n ∧ n ≤ 57 then some (n - 22)
  else none

/-- The least value that lets another digit follow, at the place `k`. -/
def threshold (k bias : Nat) : Nat := max 1 (min 26 (k - bias))

/-- Divides a step until it is small, and counts the divisions. -/
def shrink (delta : Nat) : Nat × Nat :=
  if 455 < delta then ((shrink (delta / 35)).1, (shrink (delta / 35)).2 + 1) else (delta, 0)
termination_by delta
decreasing_by all_goals exact Nat.div_lt_self (by omega) (by omega)

/-- The bias after a step of `delta` that was the `count`-th. -/
def adapt (delta count : Nat) (first : Bool) : Nat :=
  let d := if first then delta / 700 else delta / 2
  let (rest, divisions) := shrink (d + d / count)
  36 * divisions + 36 * rest / (rest + 38)

/-- A digit before the last has room for one value at least. -/
theorem threshold_pos (k bias : Nat) : 1 ≤ threshold k bias := Nat.le_max_left _ _

/-- No threshold is greater than 26. -/
theorem threshold_le (k bias : Nat) : threshold k bias ≤ 26 :=
  Nat.max_le.2 ⟨by decide, Nat.min_le_left _ _⟩

/-- The digits of a number, from the place `k` on. -/
def digits (bias k q : Nat) : List Char :=
  let t := threshold k bias
  if q < t then [digitChar q]
  else digitChar (t + (q - t) % (36 - t)) :: digits bias (k + 36) ((q - t) / (36 - t))
termination_by q
decreasing_by
  have := threshold_pos k bias
  have : (q - threshold k bias) / (36 - threshold k bias) ≤ q - threshold k bias :=
    Nat.div_le_self _ _
  omega

/-! ## Writing -/

/-- Where writing has come to. -/
structure Progress where
  output : List Char := []
  delta : Nat := 0
  bias : Nat := 72
  /-- How many characters are written. -/
  count : Nat
  first : Bool := true

/-- Goes past one character while those with the code point `n` are written. -/
def pass (n : Nat) (p : Progress) (c : Char) : Progress :=
  if c.toNat < n then { p with delta := p.delta + 1 }
  else if c.toNat = n then
    { output := p.output ++ digits p.bias 36 p.delta
      delta := 0
      bias := adapt p.delta (p.count + 1) p.first
      count := p.count + 1
      first := false }
  else p

/-- Writes the characters with the given code points, each from the code point before it. -/
def passes (s : List Char) : Nat → List Nat → Progress → Progress
  | _, [], p => p
  | n, m :: ms, p =>
    -- Every code point that is skipped counts once for each place in the text so far.
    let p := { p with delta := p.delta + (m - n) * (p.count + 1) }
    let p := s.foldl (pass m) p
    passes s (m + 1) ms { p with delta := p.delta + 1 }

/-- Numbers in ascending order, each once. -/
def ascending (ns : List Nat) : List Nat := (ns.mergeSort fun a b => decide (a ≤ b)).eraseDups

/-- The ASCII form of a label. -/
def encode (s : List Char) : List Char :=
  let basic := s.filter (·.toNat < 128)
  let others := ascending ((s.map Char.toNat).filter (128 ≤ ·))
  basic ++ (if basic.isEmpty then [] else ['-']) ++
    (passes s 128 others { count := basic.length }).output

/-! ## Reading -/

/-- The number at the front, and what follows it; `w` is the weight of the digit at `k`. -/
def number? (bias : Nat) : Nat → Nat → Nat → List Char → Option (Nat × List Char)
  | _, _, _, [] => none
  | k, w, acc, c :: r =>
    (digitValue? c).bind fun d =>
      let t := threshold k bias
      if d < t then some (acc + d * w, r) else number? bias (k + 36) (w * (36 - t)) (acc + d * w) r

/-- A number takes a digit at least. -/
theorem length_number? {bias k w acc i : Nat} {s r : List Char}
    (h : number? bias k w acc s = some (i, r)) : r.length < s.length := by
  fun_induction number? bias k w acc s with
  | case1 => cases h
  | case2 k w acc c t ih =>
    obtain ⟨d, -, h⟩ := Option.bind_eq_some_iff.1 h
    simp only at h
    split at h
    · cases h; simp
    · exact Nat.lt_succ_of_lt (ih d h)

/-- Puts the characters into their places, after `n` and `i` for the character and the place of
the step before. -/
def insertions? (n i bias : Nat) (first : Bool) (done : List Char) (s : List Char) :
    Option (List Char) :=
  if s.isEmpty then some done
  else
    match _h : number? bias 36 1 0 s with
    | none => none
    | some (delta, r) =>
      -- There is one place more than characters, and the distance goes round them.
      let count := done.length + 1
      let total := i + delta
      let m := n + total / count
      let place := total % count
      if m.isValidChar then
        insertions? m (place + 1) (adapt delta count first) false
          (done.take place ++ Char.ofNat m :: done.drop place) r
      else none
termination_by s.length
decreasing_by exact length_number? _h

/-- The label that has this ASCII form. -/
def decode? (s : List Char) : Option (List Char) :=
  let basic := ((s.reverse.dropWhile (· != '-')).drop 1).reverse
  let rest := if basic.isEmpty then s else s.drop (basic.length + 1)
  if basic.all (·.toNat < 128) then insertions? 128 0 72 true basic rest else none

end Stratum.Domain.Punycode
