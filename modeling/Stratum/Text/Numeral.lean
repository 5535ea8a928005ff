/-!
# Decimal numerals

Reading and writing whole numbers in ASCII digits. A reader takes the whole text or
fails. One for 64 bits takes digit by digit and stops where the number so far leaves its
range; how many digits there are is not limited, so leading zeros are harmless.

> `readNat?_digits`: a written number is read back.
-/

namespace Stratum.Text.Numeral

/-- The value of a string of ASCII digits. -/
def value (s : List Char) : Nat := Nat.ofDigitChars 10 s 0

/-- The digits of a number, without leading zeros. -/
def digits (n : Nat) : List Char := Nat.toDigits 10 n

/-- The digits of a number, filled up to `w` places with zeros in front. -/
def padded (w n : Nat) : List Char := List.leftpad w '0' (digits n)

/-- A sign in front of the digits of a negative number. -/
def signed (z : Int) : List Char := if z < 0 then '-' :: digits z.natAbs else digits z.natAbs

/-- One or more digits. -/
def readNat? (s : List Char) : Option Nat :=
  if s.isEmpty || !s.all Char.isDigit then none else some (value s)

/-- Digits after an optional plus sign. -/
def readUnsigned? : List Char → Option Nat
  | '+' :: r => readNat? r
  | s => readNat? s

/-- Digits after an optional sign. -/
def readSigned? : List Char → Option Int
  | '-' :: r => (readNat? r).map (fun n => -(n : Int))
  | s => (readUnsigned? s).map (fun n => (n : Int))

/-- A number as an unsigned one of 64 bits, if it fits. -/
def fitUnsigned (n : Nat) : Option UInt64 :=
  if h : n < UInt64.size then some (UInt64.ofNatLT n h) else none

/-- A number as a signed one of 64 bits, if it fits. -/
def fitSigned (z : Int) : Option Int64 :=
  if Int64.minValue.toInt ≤ z ∧ z ≤ Int64.maxValue.toInt then some (Int64.ofInt z) else none

/-- Puts a digit behind an unsigned number: ten times the number, and the digit on top. -/
def pushUnsigned (n : UInt64) (d : Nat) : Option UInt64 :=
  (fitUnsigned (n.toNat * 10)).bind fun m => fitUnsigned (m.toNat + d)

/-- The same with a signed number that grows. -/
def pushUp (n : Int64) (d : Nat) : Option Int64 :=
  (fitSigned (n.toInt * 10)).bind fun m => fitSigned (m.toInt + d)

/-- The same with one that falls. The least number has no opposite, so no sign can be put in front
afterwards. -/
def pushDown (n : Int64) (d : Nat) : Option Int64 :=
  (fitSigned (n.toInt * 10)).bind fun m => fitSigned (m.toInt - d)

/-- Takes digits one by one, and puts each behind the number so far. -/
def pushDigits? {α : Type} (push : α → Nat → Option α) (n : α) : List Char → Option α
  | [] => some n
  | c :: r =>
    if c.isDigit then (push n (c.toNat - '0'.toNat)).bind fun m => pushDigits? push m r else none

/-- One or more digits, put behind nothing. -/
def readDigits? {α : Type} (push : α → Nat → Option α) (zero : α) (s : List Char) : Option α :=
  if s.isEmpty then none else pushDigits? push zero s

/-- An unsigned numeral that fits into 64 bits. -/
def readUInt64? : List Char → Option UInt64
  | '+' :: r => readDigits? pushUnsigned 0 r
  | s => readDigits? pushUnsigned 0 s

/-- A signed numeral that fits into 64 bits. -/
def readInt64? : List Char → Option Int64
  | '-' :: r => readDigits? pushDown 0 r
  | '+' :: r => readDigits? pushUp 0 r
  | s => readDigits? pushUp 0 s

/-- A number is written in digits only. -/
theorem all_isDigit_digits (n : Nat) : (digits n).all Char.isDigit = true := by
  rw [List.all_eq_true]
  intro c hc
  exact Nat.isDigit_of_mem_toDigits (by decide) (by decide) hc

/-- A number has a digit at least. -/
theorem digits_ne_nil (n : Nat) : digits n ≠ [] := by
  intro h
  have := Nat.length_toDigits_pos (b := 10) (n := n)
  unfold digits at h
  rw [h] at this
  exact absurd this (by decide)

/-- The digits of a number have its value. -/
theorem value_digits (n : Nat) : value (digits n) = n :=
  Nat.ofDigitChars_toDigits (by decide) (by decide)

/-- A number that is written is read back. -/
theorem readNat?_digits (n : Nat) : readNat? (digits n) = some n := by
  unfold readNat?
  rw [all_isDigit_digits, value_digits]
  have : (digits n).isEmpty = false := by
    cases h : digits n with
    | nil => exact absurd h (digits_ne_nil n)
    | cons => rfl
  simp [this]

end Stratum.Text.Numeral
