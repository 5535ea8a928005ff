/-!
# UTF-8, strict and lossy

Files and answers are bytes, names and values are characters. One function, `next`,
takes the first character off a byte string or says that it is malformed; both
decoders are built on it. The strict one refuses a malformed text; the lossy one puts
`U+FFFD` in the place of every maximal part that starts a character but cannot be
continued, which never swallows a byte that could start the next one.

> `next_length_le`: what is left after one step is no longer than what follows the
> first byte, so both decoders end.
> `length_decodeLossy_le`: lossy decoding gives at most one character for a byte.
-/

namespace Stratum.Text

/-- A byte string: the content of a file, the body of an answer. -/
abbrev Bytes := List UInt8

namespace Utf8

/-- Bytes that continue a character. -/
def isContinuation (b : UInt8) : Bool := 0x80 ≤ b && b ≤ 0xbf

/-- The six low bits of a continuation byte. -/
def tailBits (b : UInt8) : Nat := b.toNat % 64

/-- Takes `n` more continuation bytes for a character whose bits so far are `acc`; the
bytes taken before a failure are gone. -/
def more : Nat → Nat → Bytes → Option Char × Bytes
  | 0, acc, r => (some (Char.ofNat acc), r)
  | n + 1, acc, b :: r =>
    if isContinuation b then more n (acc * 64 + tailBits b) r else (none, b :: r)
  | _ + 1, _, [] => (none, [])

/-- Takes the second byte of a character, which has to lie between `lo` and `hi`, and `n`
more after it. -/
def second (lo hi : UInt8) (n acc : Nat) : Bytes → Option Char × Bytes
  | b :: r => if lo ≤ b && b ≤ hi then more n (acc * 64 + tailBits b) r else (none, b :: r)
  | [] => (none, [])

/-- Takes one character off `b :: r`, `none` if it is malformed; the second part is what is
left. The bounds on the second byte keep out overlong forms, surrogates and values above
`U+10FFFF`. -/
def next (b : UInt8) (r : Bytes) : Option Char × Bytes :=
  let n := b.toNat
  if b < 0x80 then (some (Char.ofNat n), r)
  -- Continuation bytes, and the first bytes of forms that are overlong in any case.
  else if b < 0xc2 then (none, r)
  else if b < 0xe0 then second 0x80 0xbf 0 (n % 32) r
  else if b == 0xe0 then second 0xa0 0xbf 1 0 r
  else if b == 0xed then second 0x80 0x9f 1 13 r
  else if b < 0xf0 then second 0x80 0xbf 1 (n % 16) r
  else if b == 0xf0 then second 0x90 0xbf 2 0 r
  else if b < 0xf4 then second 0x80 0xbf 2 (n % 8) r
  else if b == 0xf4 then second 0x80 0x8f 2 4 r
  else (none, r)

/-- Continuation bytes are taken off the front. -/
theorem more_length_le (n acc : Nat) (r : Bytes) : (more n acc r).2.length ≤ r.length := by
  fun_induction more n acc r with
  | case1 => exact Nat.le_refl _
  | case2 n acc b r _ ih => exact Nat.le_trans ih (Nat.le_succ _)
  | case3 => exact Nat.le_refl _
  | case4 => exact Nat.le_refl _

/-- So is a second byte, whatever range it must be in. -/
theorem second_length_le (lo hi : UInt8) (n acc : Nat) (r : Bytes) :
    (second lo hi n acc r).2.length ≤ r.length := by
  unfold second
  split
  · split
    · exact Nat.le_trans (more_length_le _ _ _) (Nat.le_succ _)
    · exact Nat.le_refl _
  · exact Nat.le_refl _

/-- Behind its first byte, a character takes no more than there is. -/
theorem next_length_le (b : UInt8) (r : Bytes) : (next b r).2.length ≤ r.length := by
  unfold next
  simp only
  repeat' split
  all_goals first | exact Nat.le_refl _ | exact second_length_le _ _ _ _ _

/-- Decodes, with `U+FFFD` for every malformed part. -/
def decodeLossy : Bytes → List Char
  | [] => []
  | b :: r => (next b r).1.getD '\uFFFD' :: decodeLossy (next b r).2
termination_by s => s.length
decreasing_by exact Nat.lt_succ_of_le (next_length_le b r)

/-- Decodes a well-formed text, `none` for any other. -/
def decode? : Bytes → Option (List Char)
  | [] => some []
  | b :: r =>
    match (next b r).1 with
    | none => none
    | some c => (decode? (next b r).2).map (c :: ·)
termination_by s => s.length
decreasing_by exact Nat.lt_succ_of_le (next_length_le b r)

/-- The UTF-8 form of a text. -/
def encode (s : List Char) : Bytes := s.flatMap String.utf8EncodeChar

/-- A text has no more characters than bytes. -/
theorem length_decodeLossy_le (s : Bytes) : (decodeLossy s).length ≤ s.length := by
  fun_induction decodeLossy s with
  | case1 => exact Nat.le_refl _
  | case2 b r ih =>
    simp only [List.length_cons]
    exact Nat.succ_le_succ (Nat.le_trans ih (next_length_le b r))

end Utf8

end Stratum.Text

/-- The UTF-8 bytes of a text. -/
def String.utf8 (s : String) : Stratum.Text.Bytes := Stratum.Text.Utf8.encode s.toList
