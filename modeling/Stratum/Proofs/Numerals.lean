import Mathlib.Algebra.Group.Int.Defs
import Mathlib.Algebra.Group.Nat.Defs
import Stratum.Text.Numeral

/-!
# Texts that are numbers

A numeral is digits, behind a sign or not, and every number of digits will do. It is refused if
anything else stands in it, if there are no digits, and if its value does not fit into 64 bits. The
readers see no value, but only a number that grows with every digit; since it never comes back into
its range, they refuse a numeral early exactly if its value is out of it.

> `readDigits?_eq`: digits that are taken one by one come to the value of the numeral.
> `isSome_readUInt64?_iff`, `isSome_readInt64?_iff`: which texts are read as numbers.
-/

namespace Stratum.Text.Numeral

/-- One digit or more, and nothing else. -/
def IsDigits (ds : List Char) : Prop := ds ≠ [] ∧ ∀ c ∈ ds, c.isDigit = true

/-- As many digits as there are, so many powers of ten are above the value. -/
theorem value_lt {ds : List Char} (h : ∀ c ∈ ds, c.isDigit = true) :
    value ds < 10 ^ ds.length := by
  induction ds with
  | nil => decide
  | cons c ds ih =>
    have htail := ih fun d hd => h d (List.mem_cons_of_mem c hd)
    obtain ⟨hlow, hhigh⟩ := Bool.and_eq_true_iff.1 (h c List.mem_cons_self)
    have hdigit : c.toNat - '0'.toNat ≤ 9 := by
      have hnine : c.toNat ≤ 57 := of_decide_eq_true hhigh
      have hzero : '0'.toNat = 48 := rfl
      omega
    have hvalue : value (c :: ds) = 10 ^ ds.length * (c.toNat - '0'.toNat) + value ds := by
      unfold value
      rw [Nat.ofDigitChars_cons, Nat.ofDigitChars_eq_ofDigitChars_zero, Nat.mul_zero, Nat.zero_add]
    have hmost : 10 ^ ds.length * (c.toNat - '0'.toNat) ≤ 10 ^ ds.length * 9 :=
      Nat.mul_le_mul_left _ hdigit
    rw [hvalue, List.length_cons, Nat.pow_succ]
    omega

/-- A numeral without a sign, or with a plus. -/
inductive Unsigned : List Char → Nat → Prop
  | digits {ds : List Char} (h : IsDigits ds) : Unsigned ds (value ds)
  | plus {ds : List Char} (h : IsDigits ds) : Unsigned ('+' :: ds) (value ds)

/-- A numeral with any sign or none. -/
inductive Signed : List Char → Int → Prop
  | unsigned {s : List Char} {n : Nat} (h : Unsigned s n) : Signed s n
  | minus {ds : List Char} (h : IsDigits ds) : Signed ('-' :: ds) (-(value ds : Int))

variable {s : List Char}

/-- Digits are read as their value, and nothing else is read. -/
theorem readNat?_eq_some_iff {n : Nat} : readNat? s = some n ↔ IsDigits s ∧ value s = n := by
  have hdigits : (s.isEmpty || !s.all Char.isDigit) = false ↔ IsDigits s := by
    rw [Bool.or_eq_false_iff, List.isEmpty_eq_false_iff, Bool.not_eq_false', List.all_eq_true]
    exact Iff.rfl
  unfold readNat?
  by_cases h : IsDigits s
  · rw [hdigits.2 h, if_neg Bool.false_ne_true, Option.some.injEq]
    exact (and_iff_right h).symm
  · rw [if_pos (Bool.not_eq_false _ ▸ fun hfalse => h (hdigits.1 hfalse))]
    exact iff_of_false nofun fun hboth => h hboth.1

/-- No digit is a sign. -/
theorem IsDigits.head {c : Char} {ds : List Char} (h : IsDigits (c :: ds)) : c ≠ '+' ∧ c ≠ '-' := by
  have hc := h.2 c List.mem_cons_self
  constructor
  · intro heq
    rw [heq] at hc
    cases hc
  · intro heq
    rw [heq] at hc
    cases hc

/-- A number without a sign is read from its numerals, which may start with a plus. -/
theorem readUnsigned?_eq_some_iff {n : Nat} : readUnsigned? s = some n ↔ Unsigned s n := by
  constructor
  · intro h
    unfold readUnsigned? at h
    split at h
    · obtain ⟨hdigits, rfl⟩ := readNat?_eq_some_iff.1 h
      exact .plus hdigits
    · obtain ⟨hdigits, rfl⟩ := readNat?_eq_some_iff.1 h
      exact .digits hdigits
  · intro h
    cases h with
    | plus h => exact readNat?_eq_some_iff.2 ⟨h, rfl⟩
    | digits h =>
      have hread := readNat?_eq_some_iff.2 ⟨h, rfl⟩
      unfold readUnsigned?
      split
      · exact absurd rfl h.head.1
      · exact hread

/-- Behind a minus there are digits. -/
theorem readSigned?_minus (ds : List Char) :
    readSigned? ('-' :: ds) = (readNat? ds).map fun n : Nat => -(n : Int) := by
  show Option.map _ ((readNat? ds).bind _) = _
  cases readNat? ds <;> rfl

/-- Without one it is read as if it had no sign. -/
theorem readSigned?_of_ne (h : s.head? ≠ some '-') :
    readSigned? s = (readUnsigned? s).map fun n : Nat => (n : Int) := by
  unfold readSigned?
  split
  · exact absurd rfl h
  · show Option.map _ ((readUnsigned? s).bind _) = _
    cases readUnsigned? s <;> rfl

theorem Unsigned.head?_ne {n : Nat} (h : Unsigned s n) : s.head? ≠ some '-' := by
  intro hminus
  obtain ⟨r, rfl⟩ := List.head?_eq_some_iff.1 hminus
  cases h with
  | digits h => exact h.head.2 rfl

/-- A number with a sign is read from its numerals. -/
theorem readSigned?_eq_some_iff {z : Int} : readSigned? s = some z ↔ Signed s z := by
  constructor
  · intro h
    by_cases hminus : s.head? = some '-'
    · obtain ⟨ds, rfl⟩ := List.head?_eq_some_iff.1 hminus
      rw [readSigned?_minus] at h
      obtain ⟨n, hn, rfl⟩ := Option.map_eq_some_iff.1 h
      obtain ⟨hdigits, rfl⟩ := readNat?_eq_some_iff.1 hn
      exact .minus hdigits
    · rw [readSigned?_of_ne hminus] at h
      obtain ⟨n, hn, rfl⟩ := Option.map_eq_some_iff.1 h
      exact .unsigned (readUnsigned?_eq_some_iff.1 hn)
  · intro h
    cases h with
    | minus h =>
      rw [readSigned?_minus, readNat?_eq_some_iff.2 ⟨h, rfl⟩]
      rfl
    | unsigned h =>
      rw [readSigned?_of_ne h.head?_ne, readUnsigned?_eq_some_iff.2 h]
      rfl

/-! ## Digit by digit -/

/-- The number so far stands for a natural number, a digit is put behind that one, and what is out of
range stays out of it. -/
structure Counts {α : Type} (push : α → Nat → Option α) (fit : Nat → Option α) : Prop where
  push_eq : ∀ {n a} d, fit n = some a → push a d = fit (10 * n + d)
  leaves : ∀ {m n}, m ≤ n → fit m = none → fit n = none

/-- More digits make no smaller number. -/
theorem le_ofDigitChars (s : List Char) (n : Nat) : n ≤ Nat.ofDigitChars 10 s n := by
  induction s generalizing n with
  | nil => exact Nat.le_refl n
  | cons c r ih =>
    rw [Nat.ofDigitChars_cons]
    exact Nat.le_trans (by omega) (ih _)

/-- Digits behind a number make one number with it. -/
theorem Counts.pushDigits?_eq {α : Type} {push : α → Nat → Option α} {fit : Nat → Option α}
    (h : Counts push fit) {n : Nat} {a : α} (ha : fit n = some a) (s : List Char) :
    pushDigits? push a s = if s.all Char.isDigit then fit (Nat.ofDigitChars 10 s n) else none := by
  induction s generalizing n a with
  | nil => exact ha.symm
  | cons c r ih =>
    unfold pushDigits?
    rw [List.all_cons, Nat.ofDigitChars_cons]
    cases c.isDigit with
    | false => rfl
    | true =>
      rw [if_pos rfl, Bool.true_and, h.push_eq _ ha]
      cases hpush : fit (10 * n + (c.toNat - '0'.toNat)) with
      | some b => exact ih hpush
      | none =>
        -- The number is out of range, and the other digits do not bring it back.
        rw [h.leaves (le_ofDigitChars r _) hpush, ite_self]
        rfl

/-- **Digits that are taken one by one come to the value of the numeral**, if it is in range. -/
theorem Counts.readDigits?_eq {α : Type} {push : α → Nat → Option α} {fit : Nat → Option α}
    (h : Counts push fit) {zero : α} (hzero : fit 0 = some zero) (s : List Char) :
    readDigits? push zero s = (readNat? s).bind fit := by
  unfold readDigits? readNat?
  cases s.isEmpty with
  | true => rfl
  | false =>
    rw [if_neg Bool.false_ne_true, h.pushDigits?_eq hzero, Bool.false_or]
    cases s.all Char.isDigit <;> rfl

/-- What fits into 64 bits is kept as it is. -/
theorem fitUnsigned_eq_some_iff {n : Nat} {u : UInt64} : fitUnsigned n = some u ↔ u.toNat = n := by
  unfold fitUnsigned
  constructor
  · intro h
    split at h
    next =>
      obtain rfl := Option.some.inj h
      exact UInt64.toNat_ofNatLT
    next => cases h
  · rintro rfl
    rw [dif_pos u.toNat_lt_size, UInt64.ofNatLT_toNat]

/-- What does not fit is no less than their power of two. -/
theorem fitUnsigned_eq_none_iff {n : Nat} : fitUnsigned n = none ↔ 2 ^ 64 ≤ n := by
  unfold fitUnsigned
  split
  next h => exact iff_of_false nofun (Nat.not_le.2 h)
  next h => exact iff_of_true rfl (Nat.not_lt.1 h)

/-- The same of numbers with a sign. -/
theorem fitSigned_eq_some_iff {z : Int} {i : Int64} : fitSigned z = some i ↔ i.toInt = z := by
  unfold fitSigned
  constructor
  · intro h
    split at h
    next hbounds =>
      obtain rfl := Option.some.inj h
      exact Int64.toInt_ofInt_of_le hbounds.1 (Int.lt_of_le_of_lt hbounds.2 (by decide))
    next => cases h
  · rintro rfl
    rw [if_pos ⟨i.minValue_le_toInt, i.toInt_le⟩, Int64.ofInt_toInt]

/-- There are two ends at which one does not fit. -/
theorem fitSigned_eq_none_iff {z : Int} : fitSigned z = none ↔ z < -2 ^ 63 ∨ 2 ^ 63 ≤ z := by
  have hmin : Int64.minValue.toInt = -2 ^ 63 := by decide
  have hmax : Int64.maxValue.toInt = 2 ^ 63 - 1 := by decide
  unfold fitSigned
  rw [hmin, hmax]
  split
  next h => exact iff_of_false nofun (by omega)
  next h => exact iff_of_true rfl (by omega)

/-- What comes of a step that is made in two halves: ten times the number, and then the digit. -/
theorem bind_fitSigned {i : Int64} {z w : Int} (hz : i.toInt = z)
    (hout : 10 * z < -2 ^ 63 ∨ 2 ^ 63 ≤ 10 * z → w < -2 ^ 63 ∨ 2 ^ 63 ≤ w)
    {f : Int64 → Int} (hf : ∀ m, m.toInt = 10 * z → f m = w) :
    ((fitSigned (i.toInt * 10)).bind fun m => fitSigned (f m)) = fitSigned w := by
  rw [hz, Int.mul_comm]
  cases hten : fitSigned (10 * z) with
  | none => exact (fitSigned_eq_none_iff.2 (hout (fitSigned_eq_none_iff.1 hten))).symm
  | some m => exact congrArg fitSigned (hf m (fitSigned_eq_some_iff.1 hten))

/-- Multiplying and adding with checks is exact while it fits. -/
theorem counts_pushUnsigned : Counts pushUnsigned fitUnsigned where
  push_eq := by
    intro n a d ha
    unfold pushUnsigned
    rw [fitUnsigned_eq_some_iff.1 ha, Nat.mul_comm]
    cases hten : fitUnsigned (10 * n) with
    | none =>
      have hout := fitUnsigned_eq_none_iff.1 hten
      exact (fitUnsigned_eq_none_iff.2 (Nat.le_trans hout (Nat.le_add_right _ d))).symm
    | some m =>
      show fitUnsigned (m.toNat + d) = _
      rw [fitUnsigned_eq_some_iff.1 hten]
  leaves := by
    intro m n hle hm
    exact fitUnsigned_eq_none_iff.2 (Nat.le_trans (fitUnsigned_eq_none_iff.1 hm) hle)

/-- So it is for numbers that are not negative. -/
theorem counts_pushUp : Counts pushUp fun n => fitSigned n where
  push_eq := by
    intro n a d ha
    refine bind_fitSigned (fitSigned_eq_some_iff.1 ha) (by omega) fun m hm => ?_
    rw [hm]
    omega
  leaves := by
    intro m n hle hm
    rw [fitSigned_eq_none_iff] at hm ⊢
    omega

/-- And for the others, where the digits are taken away. -/
theorem counts_pushDown : Counts pushDown fun n => fitSigned (-n) where
  push_eq := by
    intro n a d ha
    refine bind_fitSigned (fitSigned_eq_some_iff.1 ha) (by omega) fun m hm => ?_
    rw [hm]
    omega
  leaves := by
    intro m n hle hm
    rw [fitSigned_eq_none_iff] at hm ⊢
    omega

/-- An unsigned number of 64 bits is the value of the numeral, if it fits. -/
theorem readUInt64?_eq (s : List Char) : readUInt64? s = (readUnsigned? s).bind fitUnsigned := by
  unfold readUInt64? readUnsigned?
  split <;> exact counts_pushUnsigned.readDigits?_eq rfl _

/-- So is a signed one. -/
theorem readInt64?_eq (s : List Char) : readInt64? s = (readSigned? s).bind fitSigned := by
  have hmap (g : Nat → Int) (o : Option Nat) : (o.bind fun n => fitSigned (g n)) =
      (o.map g).bind fitSigned := by
    cases o <;> rfl
  unfold readInt64?
  split
  next r =>
    rw [readSigned?_minus, ← hmap]
    exact counts_pushDown.readDigits?_eq rfl r
  next r =>
    rw [readSigned?_of_ne (by simp), ← hmap]
    exact counts_pushUp.readDigits?_eq rfl r
  next hminus hplus =>
    have hhead : s.head? ≠ some '-' := by
      intro hhead
      obtain ⟨r, rfl⟩ := List.head?_eq_some_iff.1 hhead
      exact hminus r rfl
    have hunsigned : readUnsigned? s = readNat? s := by
      unfold readUnsigned?
      split
      next r => exact absurd rfl (hplus r)
      next => rfl
    rw [readSigned?_of_ne hhead, ← hmap, hunsigned]
    exact counts_pushUp.readDigits?_eq rfl s

/-- An unsigned number of 64 bits is read exactly from its numerals. -/
theorem isSome_readUInt64?_iff :
    (readUInt64? s).isSome = true ↔ ∃ n, Unsigned s n ∧ n < 2 ^ 64 := by
  rw [readUInt64?_eq]
  constructor
  · intro h
    obtain ⟨u, hu⟩ := Option.isSome_iff_exists.1 h
    obtain ⟨n, hn, hfit⟩ := Option.bind_eq_some_iff.1 hu
    rw [← fitUnsigned_eq_some_iff.1 hfit] at hn
    exact ⟨_, readUnsigned?_eq_some_iff.1 hn, u.toNat_lt⟩
  · intro h
    obtain ⟨n, hn, hlt⟩ := h
    rw [readUnsigned?_eq_some_iff.2 hn, Option.bind_some, Option.isSome_iff_ne_none, Ne,
      fitUnsigned_eq_none_iff]
    exact Nat.not_le.2 hlt

/-- And so is a signed one. -/
theorem isSome_readInt64?_iff :
    (readInt64? s).isSome = true ↔ ∃ z, Signed s z ∧ -2 ^ 63 ≤ z ∧ z < 2 ^ 63 := by
  rw [readInt64?_eq]
  constructor
  · intro h
    obtain ⟨i, hi⟩ := Option.isSome_iff_exists.1 h
    obtain ⟨z, hz, hfit⟩ := Option.bind_eq_some_iff.1 hi
    rw [← fitSigned_eq_some_iff.1 hfit] at hz
    exact ⟨_, readSigned?_eq_some_iff.1 hz, i.le_toInt, i.toInt_lt⟩
  · intro h
    obtain ⟨z, hz, hlow, hhigh⟩ := h
    rw [readSigned?_eq_some_iff.2 hz, Option.bind_some, Option.isSome_iff_ne_none, Ne,
      fitSigned_eq_none_iff]
    omega

/-! ## What is written is read back -/

theorem isDigits_digits (n : Nat) : IsDigits (digits n) :=
  ⟨digits_ne_nil n, List.all_eq_true.1 (all_isDigit_digits n)⟩

/-- What is written for a number is one of its numerals. -/
theorem unsigned_digits (n : Nat) : Unsigned (digits n) n := by
  have h := Unsigned.digits (isDigits_digits n)
  rwa [value_digits] at h

/-- With a sign as well. -/
theorem signed_signed (z : Int) : Signed (signed z) z := by
  unfold signed
  split
  next hneg =>
    have hvalue : -(z.natAbs : Int) = z := by omega
    have h := Signed.minus (isDigits_digits z.natAbs)
    rwa [value_digits, hvalue] at h
  next hpos =>
    have hvalue : (z.natAbs : Int) = z := by omega
    have h := Signed.unsigned (unsigned_digits z.natAbs)
    rwa [hvalue] at h

/-- **A number without a sign is read back.** -/
theorem readUInt64?_digits (n : UInt64) : readUInt64? (digits n.toNat) = some n := by
  rw [readUInt64?_eq, readUnsigned?_eq_some_iff.2 (unsigned_digits n.toNat), Option.bind_some]
  exact fitUnsigned_eq_some_iff.2 rfl

/-- **So is one with a sign**, down to the least one. -/
theorem readInt64?_signed (n : Int64) : readInt64? (signed n.toInt) = some n := by
  rw [readInt64?_eq, readSigned?_eq_some_iff.2 (signed_signed n.toInt), Option.bind_some]
  exact fitSigned_eq_some_iff.2 rfl

end Stratum.Text.Numeral
