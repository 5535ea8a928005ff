import Stratum.Text.Utf8
import Mathlib.Data.List.Basic
import Mathlib.Tactic.IntervalCases

/-!
# Where characters begin

Every byte below `0x80` is a character of its own, wherever it stands: no longer character takes it
in, and a character that breaks off in front of it breaks off as it would at the end. So a byte
string can be cut in front of such a byte, and both parts decoded by themselves. Line ends are such
bytes, and so are all signs that the formats of this library are made of.

> `decodeLossy_append`, `decode?_append`: decoding goes on anew at a byte below `0x80`.
> `decode?_encode`: what is written as UTF-8 is read back.
> `mem_of_mem_encode`, `mem_of_mem_decodeLossy`: a byte below `0x80` stands for its own character,
> and a character of ASCII for its own byte.
-/

namespace Stratum.Text.Utf8

variable {b : UInt8}

/-! ## ASCII at the front -/

/-- A byte of ASCII is a character by itself, whatever follows. -/
theorem next_of_lt (hb : b < 0x80) (r : Bytes) : next b r = (some (Char.ofNat b.toNat), r) := by
  unfold next
  rw [if_pos hb]

/-- So it comes first in what is decoded. -/
theorem decodeLossy_cons (hb : b < 0x80) (r : Bytes) :
    decodeLossy (b :: r) = Char.ofNat b.toNat :: decodeLossy r := by
  rw [decodeLossy, next_of_lt hb]
  rfl

/-- Also where decoding may fail. -/
theorem decode?_cons (hb : b < 0x80) (r : Bytes) :
    decode? (b :: r) = (decode? r).map (Char.ofNat b.toNat :: ·) := by
  rw [decode?, next_of_lt hb]

/-- Of a text, lossy decoding loses nothing. -/
theorem decodeLossy_of_decode? {s : Bytes} {t : List Char} (h : decode? s = some t) :
    decodeLossy s = t := by
  fun_induction decode? s generalizing t with
  | case1 =>
    cases h
    rw [decodeLossy]
  | case2 => cases h
  | case3 b r c hc ih =>
    obtain ⟨u, hu, rfl⟩ := Option.map_eq_some_iff.1 h
    rw [decodeLossy, hc, ih hu]
    rfl

/-! ## Longer characters -/

/-- **A character that starts with no ASCII byte** is malformed at once, or it goes on with a second
byte; then the bits that it starts with alone put it above ASCII. -/
theorem next_cases (hb : ¬b < 0x80) :
    (∀ r, next b r = (none, r)) ∨ ∃ lo hi n acc, 0x80 ≤ lo ∧ hi ≤ 0xbf ∧
      128 ≤ (acc * 64 + (lo.toNat - 128)) * 64 ^ n ∧ ∀ r, next b r = second lo hi n acc r := by
  have hle {c : UInt8} (h : ¬b < c) : c.toNat ≤ b.toNat :=
    Nat.le_of_not_lt fun hlt => h (UInt8.lt_iff_toNat_lt.2 hlt)
  have hne {c : UInt8} (h : ¬(b == c) = true) : b.toNat ≠ c.toNat := fun heq =>
    h (beq_iff_eq.2 (UInt8.toNat_inj.1 heq))
  unfold next
  simp only [if_neg hb]
  by_cases hnone : b < 0xc2
  · exact Or.inl fun r => if_pos hnone
  have hlow : 194 ≤ b.toNat := hle hnone
  simp only [if_neg hnone]
  by_cases htwo : b < 0xe0
  · have hhigh : b.toNat < 224 := UInt8.lt_iff_toNat_lt.1 htwo
    simp only [if_pos htwo]
    exact Or.inr ⟨0x80, 0xbf, 0, _, by decide, by decide, by simp only [UInt8.reduceToNat]; omega,
      fun r => rfl⟩
  have hlow : 224 ≤ b.toNat := hle htwo
  simp only [if_neg htwo]
  by_cases hlong : (b == 0xe0) = true
  · simp only [if_pos hlong]
    exact Or.inr ⟨0xa0, 0xbf, 1, 0, by decide, by decide, by decide, fun r => rfl⟩
  have hthreeBits : b.toNat ≠ 224 := hne hlong
  simp only [if_neg hlong]
  by_cases hsurrogate : (b == 0xed) = true
  · simp only [if_pos hsurrogate]
    exact Or.inr ⟨0x80, 0x9f, 1, 13, by decide, by decide, by decide, fun r => rfl⟩
  simp only [if_neg hsurrogate]
  by_cases hthree : b < 0xf0
  · have hhigh : b.toNat < 240 := UInt8.lt_iff_toNat_lt.1 hthree
    simp only [if_pos hthree]
    exact Or.inr ⟨0x80, 0xbf, 1, _, by decide, by decide, by simp only [UInt8.reduceToNat]; omega,
      fun r => rfl⟩
  have hlow : 240 ≤ b.toNat := hle hthree
  simp only [if_neg hthree]
  by_cases hlonger : (b == 0xf0) = true
  · simp only [if_pos hlonger]
    exact Or.inr ⟨0x90, 0xbf, 2, 0, by decide, by decide, by decide, fun r => rfl⟩
  have hfourBits : b.toNat ≠ 240 := hne hlonger
  simp only [if_neg hlonger]
  by_cases hfour : b < 0xf4
  · have hhigh : b.toNat < 244 := UInt8.lt_iff_toNat_lt.1 hfour
    simp only [if_pos hfour]
    exact Or.inr ⟨0x80, 0xbf, 2, _, by decide, by decide, by simp only [UInt8.reduceToNat]; omega,
      fun r => rfl⟩
  simp only [if_neg hfour]
  by_cases hlast : (b == 0xf4) = true
  · simp only [if_pos hlast]
    exact Or.inr ⟨0x80, 0x8f, 2, 4, by decide, by decide, by decide, fun r => rfl⟩
  · exact Or.inl fun r => if_neg hlast

/-! ## Cuts in front of ASCII -/

/-- It does not continue another character. -/
theorem not_isContinuation_of_lt (hb : b < 0x80) : isContinuation b = false := by
  have hlow : ¬(0x80 ≤ b) := by
    rw [UInt8.le_iff_toNat_le]
    rw [UInt8.lt_iff_toNat_lt] at hb
    omega
  unfold isContinuation
  rw [decide_eq_false hlow, Bool.false_and]

/-- What continues a character stops in front of it. -/
theorem more_append (hb : b < 0x80) (n acc : Nat) (s t : Bytes) :
    more n acc (s ++ b :: t) = ((more n acc s).1, (more n acc s).2 ++ b :: t) := by
  induction n generalizing acc s with
  | zero => simp only [more]
  | succ n ih =>
    cases s with
    | nil =>
      simp only [List.nil_append, more, not_isContinuation_of_lt hb, Bool.false_eq_true, if_false]
    | cons c s =>
      rw [List.cons_append]
      unfold more
      by_cases hc : isContinuation c = true
      · rw [if_pos hc, if_pos hc]
        exact ih _ s
      · rw [if_neg hc, if_neg hc]
        rfl

/-- So does a second byte. -/
theorem second_append (hb : b < 0x80) {lo : UInt8} (hlo : 0x80 ≤ lo) (hi : UInt8) (n acc : Nat)
    (s t : Bytes) :
    second lo hi n acc (s ++ b :: t) =
      ((second lo hi n acc s).1, (second lo hi n acc s).2 ++ b :: t) := by
  cases s with
  | nil =>
    have hlow : ¬(lo ≤ b) := by
      rw [UInt8.le_iff_toNat_le]
      rw [UInt8.lt_iff_toNat_lt] at hb
      rw [UInt8.le_iff_toNat_le] at hlo
      omega
    simp only [List.nil_append, second, decide_eq_false hlow, Bool.false_and, Bool.false_eq_true,
      if_false]
  | cons c s =>
    rw [List.cons_append]
    simp only [second]
    by_cases hc : (decide (lo ≤ c) && decide (c ≤ hi)) = true
    · rw [if_pos hc, if_pos hc]
      exact more_append hb n _ s t
    · rw [if_neg hc, if_neg hc]
      rfl

/-- A character is not longer for what stands behind it from an ASCII byte on. -/
theorem next_append (hb : b < 0x80) (c : UInt8) (s t : Bytes) :
    next c (s ++ b :: t) = ((next c s).1, (next c s).2 ++ b :: t) := by
  by_cases hc : c < 0x80
  · rw [next_of_lt hc, next_of_lt hc]
  · rcases next_cases hc with h | ⟨lo, hi, n, acc, hlo, -, -, h⟩
    · rw [h, h]
    · rw [h, h]
      exact second_append hb hlo hi n acc s t

/-- **Decoding goes on anew** at a byte below `0x80`. -/
theorem decodeLossy_append (hb : b < 0x80) (s t : Bytes) :
    decodeLossy (s ++ b :: t) = decodeLossy s ++ decodeLossy (b :: t) := by
  fun_induction decodeLossy s with
  | case1 => rfl
  | case2 c r ih =>
    rw [List.cons_append, decodeLossy, next_append hb, List.cons_append]
    exact congrArg _ ih

/-- A text can be cut in front of ASCII, also where decoding may fail. -/
theorem decode?_append (hb : b < 0x80) (s t : Bytes) :
    decode? (s ++ b :: t) = (decode? s).bind fun x => (decode? (b :: t)).map (x ++ ·) := by
  fun_induction decode? s with
  | case1 => simp
  | case2 c r hc =>
    rw [List.cons_append, decode?, next_append hb]
    simp only [hc]
    rfl
  | case3 c r d hd ih =>
    rw [List.cons_append, decode?, next_append hb]
    simp only [hd, ih]
    cases decode? (next c r).2 <;> cases decode? (b :: t) <;> simp

/-! ## What is written is read back -/

theorem toNat_ofNat_of_lt {n : Nat} (h : n < 256) : (UInt8.ofNat n).toNat = n := by
  rw [UInt8.toNat_ofNat']
  exact Nat.mod_eq_of_lt h

/-- A continuation byte adds its six bits. -/
theorem more_tail {k : Nat} (hk : k < 64) (n acc : Nat) (r : Bytes) :
    more (n + 1) acc (UInt8.ofNat (k + 128) :: r) = more n (acc * 64 + k) r := by
  have hbyte : (UInt8.ofNat (k + 128)).toNat = k + 128 := toNat_ofNat_of_lt (by omega)
  have hcont : isContinuation (UInt8.ofNat (k + 128)) = true := by
    have hlo : (0x80 : UInt8) ≤ UInt8.ofNat (k + 128) := by
      rw [UInt8.le_iff_toNat_le, hbyte]
      show 128 ≤ k + 128
      omega
    have hhi : UInt8.ofNat (k + 128) ≤ (0xbf : UInt8) := by
      rw [UInt8.le_iff_toNat_le, hbyte]
      show k + 128 ≤ 191
      omega
    unfold isContinuation
    rw [decide_eq_true hlo, decide_eq_true hhi]
    rfl
  have hbits : tailBits (UInt8.ofNat (k + 128)) = k := by
    unfold tailBits
    rw [hbyte]
    omega
  simp only [more, hcont, hbits, if_true]

/-- A second byte does as well, where it is in its range. -/
theorem second_tail {k : Nat} (hk : k < 64) {lo hi : UInt8} (hlo : lo.toNat ≤ k + 128)
    (hhi : k + 128 ≤ hi.toNat) (n acc : Nat) (r : Bytes) :
    second lo hi n acc (UInt8.ofNat (k + 128) :: r) = more n (acc * 64 + k) r := by
  have hbyte : (UInt8.ofNat (k + 128)).toNat = k + 128 := toNat_ofNat_of_lt (by omega)
  have hbits : tailBits (UInt8.ofNat (k + 128)) = k := by
    unfold tailBits
    rw [hbyte]
    omega
  have hbounds : lo ≤ UInt8.ofNat (k + 128) ∧ UInt8.ofNat (k + 128) ≤ hi := by
    rw [UInt8.le_iff_toNat_le, UInt8.le_iff_toNat_le, hbyte]
    exact ⟨hlo, hhi⟩
  simp only [second, hbits, decide_eq_true hbounds.1, decide_eq_true hbounds.2, Bool.and_self,
    if_true]

/-- The first byte of a character of two bytes holds its five upper bits. -/
theorem next_lead_two {m : Nat} (hlo : 2 ≤ m) (hhi : m < 32) (r : Bytes) :
    next (UInt8.ofNat (m + 192)) r = second 0x80 0xbf 0 m r := by
  interval_cases m <;> rfl

/-- That of three bytes holds four, and the second byte keeps out long forms and surrogates. -/
theorem next_lead_three {m : Nat} (hm : m < 16) (r : Bytes) :
    next (UInt8.ofNat (m + 224)) r =
      second (if m = 0 then 0xa0 else 0x80) (if m = 13 then 0x9f else 0xbf) 1 m r := by
  interval_cases m <;> rfl

/-- That of four bytes holds three, and the second byte keeps the character in the range. -/
theorem next_lead_four {m : Nat} (hm : m < 5) (r : Bytes) :
    next (UInt8.ofNat (m + 240)) r =
      second (if m = 0 then 0x90 else 0x80) (if m = 4 then 0x8f else 0xbf) 2 m r := by
  interval_cases m <;> rfl

/-- The bytes of a character: six bits in each but the first, which holds the rest of them. -/
theorem utf8EncodeChar_eq (c : Char) :
    String.utf8EncodeChar c =
      if c.toNat ≤ 127 then [UInt8.ofNat c.toNat]
      else if c.toNat ≤ 2047 then
        [UInt8.ofNat (c.toNat / 64 % 32 + 192), UInt8.ofNat (c.toNat % 64 + 128)]
      else if c.toNat ≤ 65535 then
        [UInt8.ofNat (c.toNat / 4096 % 16 + 224), UInt8.ofNat (c.toNat / 64 % 64 + 128),
          UInt8.ofNat (c.toNat % 64 + 128)]
      else
        [UInt8.ofNat (c.toNat / 262144 % 8 + 240), UInt8.ofNat (c.toNat / 4096 % 64 + 128),
          UInt8.ofNat (c.toNat / 64 % 64 + 128), UInt8.ofNat (c.toNat % 64 + 128)] :=
  String.utf8EncodeChar.eq_1 c

/-- A character is taken off the front of what it is written in front of. -/
theorem next_utf8EncodeChar (c : Char) :
    ∃ b r, String.utf8EncodeChar c = b :: r ∧ ∀ t, next b (r ++ t) = (some c, t) := by
  have hv : c.toNat < 0xd800 ∨ 0xdfff < c.toNat ∧ c.toNat < 0x110000 := c.valid
  have hchar {n : Nat} (h : n = c.toNat) : Char.ofNat n = c := h ▸ Char.ofNat_toNat c
  rw [utf8EncodeChar_eq]
  by_cases h1 : c.toNat ≤ 127
  · rw [if_pos h1]
    refine ⟨_, _, rfl, fun t => ?_⟩
    have hbyte : (UInt8.ofNat c.toNat).toNat = c.toNat := toNat_ofNat_of_lt (by omega)
    have hlt : UInt8.ofNat c.toNat < 0x80 := by
      rw [UInt8.lt_iff_toNat_lt, hbyte]
      show c.toNat < 128
      omega
    unfold next
    rw [if_pos hlt, hbyte, hchar rfl]
    rfl
  rw [if_neg h1]
  by_cases h2 : c.toNat ≤ 2047
  · rw [if_pos h2]
    refine ⟨_, _, rfl, fun t => ?_⟩
    rw [next_lead_two (by omega) (by omega), List.cons_append,
      second_tail (by omega) (by show 128 ≤ _; omega) (by show _ ≤ 191; omega), more,
      hchar (by omega)]
    rfl
  rw [if_neg h2]
  by_cases h3 : c.toNat ≤ 65535
  · rw [if_pos h3]
    refine ⟨_, _, rfl, fun t => ?_⟩
    rw [next_lead_three (by omega), List.cons_append, List.cons_append,
      second_tail (by omega), more_tail (by omega), more, hchar (by omega)]
    · rfl
    · split
      next => show 160 ≤ _; omega
      next => show 128 ≤ _; omega
    · split
      next => show _ ≤ 159; omega
      next => show _ ≤ 191; omega
  · rw [if_neg h3]
    refine ⟨_, _, rfl, fun t => ?_⟩
    have hlead : c.toNat / 262144 % 8 < 5 := by omega
    rw [next_lead_four hlead, List.cons_append, List.cons_append, List.cons_append,
      second_tail (by omega), more_tail (by omega), more_tail (by omega), more, hchar (by omega)]
    · rfl
    · split
      next => show 144 ≤ _; omega
      next => show 128 ≤ _; omega
    · split
      next => show _ ≤ 143; omega
      next => show _ ≤ 191; omega

/-- **What is written as UTF-8 is read back.** -/
theorem decode?_encode (s : List Char) : decode? (encode s) = some s := by
  induction s with
  | nil => rw [show encode [] = [] from rfl, decode?]
  | cons c s ih =>
    obtain ⟨b, r, hbytes, hnext⟩ := next_utf8EncodeChar c
    have hencode : encode (c :: s) = b :: (r ++ encode s) := by
      show String.utf8EncodeChar c ++ encode s = _
      rw [hbytes]
      rfl
    rw [hencode, decode?, hnext]
    simp only [ih]
    rfl

/-! ## ASCII in what is written -/

/-- A byte below `0x80` is written for its own character only. -/
theorem eq_of_mem_utf8EncodeChar {c : Char} (hb : b < 0x80) (h : b ∈ String.utf8EncodeChar c) :
    c = Char.ofNat b.toNat := by
  have hsmall : b.toNat < 128 := UInt8.lt_iff_toNat_lt.1 hb
  have hlarge {n : Nat} (hlo : 128 ≤ n) (hhi : n < 256) : b ≠ UInt8.ofNat n := by
    intro he
    rw [he, toNat_ofNat_of_lt hhi] at hsmall
    omega
  rw [utf8EncodeChar_eq] at h
  split at h
  next h1 =>
    rw [List.mem_singleton.1 h, toNat_ofNat_of_lt (by omega), Char.ofNat_toNat]
  split at h
  next =>
    simp only [List.mem_cons, List.not_mem_nil, or_false] at h
    rcases h with h | h
    · exact absurd h (hlarge (by omega) (by omega))
    · exact absurd h (hlarge (by omega) (by omega))
  split at h
  next =>
    simp only [List.mem_cons, List.not_mem_nil, or_false] at h
    rcases h with h | h | h
    · exact absurd h (hlarge (by omega) (by omega))
    · exact absurd h (hlarge (by omega) (by omega))
    · exact absurd h (hlarge (by omega) (by omega))
  next =>
    simp only [List.mem_cons, List.not_mem_nil, or_false] at h
    rcases h with h | h | h | h
    · exact absurd h (hlarge (by omega) (by omega))
    · exact absurd h (hlarge (by omega) (by omega))
    · exact absurd h (hlarge (by omega) (by omega))
    · exact absurd h (hlarge (by omega) (by omega))

/-- A byte of ASCII in what is written is a character that was written. -/
theorem mem_of_mem_encode (hb : b < 0x80) {s : List Char} (h : b ∈ encode s) :
    Char.ofNat b.toNat ∈ s := by
  obtain ⟨c, hc, hbc⟩ := List.mem_flatMap.1 h
  rw [← eq_of_mem_utf8EncodeChar hb hbc]
  exact hc

/-- A text ends in the character of the byte that it is written to end in. -/
theorem getLast?_of_encode (hb : b < 0x80) {s : List Char} (h : (encode s).getLast? = some b) :
    s.getLast? = some (Char.ofNat b.toNat) := by
  rcases List.eq_nil_or_concat s with rfl | ⟨t, c, rfl⟩
  · cases h
  · have hencode : encode (t ++ [c]) = encode t ++ String.utf8EncodeChar c := by
      simp [encode]
    have hne : String.utf8EncodeChar c ≠ [] := by
      obtain ⟨d, r, hbytes, -⟩ := next_utf8EncodeChar c
      rw [hbytes]
      exact List.cons_ne_nil d r
    rw [List.concat_eq_append] at h ⊢
    rw [hencode, List.getLast?_append_of_ne_nil _ hne] at h
    rw [List.getLast?_concat, eq_of_mem_utf8EncodeChar hb (List.mem_of_getLast? h)]

/-! ## ASCII in what is decoded -/

/-- What is left behind a character is the end of what there was. -/
theorem more_suffix (n acc : Nat) (r : Bytes) : (more n acc r).2 <:+ r := by
  fun_induction more n acc r with
  | case1 => exact List.suffix_refl _
  | case2 n acc b r _ ih => exact ih.trans (List.suffix_cons b r)
  | case3 => exact List.suffix_refl _
  | case4 => exact List.suffix_refl _

theorem second_suffix (lo hi : UInt8) (n acc : Nat) (r : Bytes) :
    (second lo hi n acc r).2 <:+ r := by
  unfold second
  split
  · split
    · exact (more_suffix _ _ _).trans (List.suffix_cons _ _)
    · exact List.suffix_refl _
  · exact List.suffix_refl _

/-- What is left behind a character stood behind its first byte. -/
theorem next_suffix (b : UInt8) (r : Bytes) : (next b r).2 <:+ r := by
  by_cases hb : b < 0x80
  · exact ⟨[], congrArg Prod.snd (next_of_lt hb r)⟩
  · rcases next_cases hb with h | ⟨lo, hi, n, acc, -, -, -, h⟩
    · exact ⟨[], congrArg Prod.snd (h r)⟩
    · rw [h]
      exact second_suffix lo hi n acc r

/-- A character has at least the bits that its first bytes give. -/
theorem le_of_more {n acc : Nat} {r : Bytes} {c : Char} (h : (more n acc r).1 = some c) :
    ∃ k, acc * 64 ^ n ≤ k ∧ c = Char.ofNat k := by
  fun_induction more n acc r with
  | case1 acc r => exact ⟨acc, by omega, (Option.some.inj h).symm⟩
  | case2 n acc b r _ ih =>
    obtain ⟨k, hk, hc⟩ := ih h
    refine ⟨k, ?_, hc⟩
    calc acc * 64 ^ (n + 1) = acc * 64 * 64 ^ n := by
          rw [Nat.pow_succ, Nat.mul_comm (64 ^ n), Nat.mul_assoc]
      _ ≤ (acc * 64 + tailBits b) * 64 ^ n := Nat.mul_le_mul_right _ (Nat.le_add_right _ _)
      _ ≤ k := hk
  | case3 => cases h
  | case4 => cases h

/-- With the second byte it has at least those of the lowest one. -/
theorem le_of_second {lo hi : UInt8} {n acc : Nat} {r : Bytes} {c : Char} (hlo : 0x80 ≤ lo)
    (hhi : hi ≤ 0xbf) (h : (second lo hi n acc r).1 = some c) :
    ∃ k, (acc * 64 + (lo.toNat - 128)) * 64 ^ n ≤ k ∧ c = Char.ofNat k := by
  unfold second at h
  split at h
  next b r =>
    split at h
    next hb =>
      simp only [Bool.and_eq_true, decide_eq_true_eq, UInt8.le_iff_toNat_le,
        UInt8.reduceToNat] at hb hlo hhi
      have hbits : acc * 64 + (lo.toNat - 128) ≤ acc * 64 + tailBits b := by
        unfold tailBits
        omega
      obtain ⟨k, hk, hc⟩ := le_of_more h
      exact ⟨k, Nat.le_trans (Nat.mul_le_mul_right _ hbits) hk, hc⟩
    next => cases h
  next => cases h

/-- A character of more than one byte is none of ASCII. -/
theorem le_of_next {r : Bytes} {c : Char} (hb : ¬b < 0x80) (h : (next b r).1 = some c) :
    ∃ k, 128 ≤ k ∧ c = Char.ofNat k := by
  rcases next_cases hb with hnext | ⟨lo, hi, n, acc, hlo, hhi, hbits, hnext⟩
  · rw [hnext] at h
    cases h
  · rw [hnext] at h
    obtain ⟨k, hk, hc⟩ := le_of_second hlo hhi h
    exact ⟨k, Nat.le_trans hbits hk, hc⟩

/-- A number is that of the character it stands for, if that is not the character 0. -/
theorem eq_of_ofNat_eq {n : Nat} {c : Char} (hc : 0 < c.toNat) (h : Char.ofNat n = c) :
    n = c.toNat := by
  unfold Char.ofNat at h
  by_cases hvalid : n.isValidChar
  · rw [dif_pos hvalid] at h
    rw [← h]
    rfl
  · rw [dif_neg hvalid] at h
    rw [← h] at hc
    cases hc

/-- A character of ASCII is decoded from its own byte only: neither a longer character nor the mark of
a malformed one is in ASCII. -/
theorem next_of_getD_eq {c : Char} (hc : 0 < c.toNat ∧ c.toNat < 128) {r : Bytes}
    (h : (next b r).1.getD '\uFFFD' = c) : b = UInt8.ofNat c.toNat ∧ (next b r).2 = r := by
  by_cases hb : b < 0x80
  · rw [next_of_lt hb] at h ⊢
    have hbyte : b.toNat = c.toNat := eq_of_ofNat_eq hc.1 h
    exact ⟨by rw [← hbyte, UInt8.ofNat_toNat], rfl⟩
  · cases hnext : (next b r).1 with
    | none =>
      rw [hnext] at h
      rw [← h] at hc
      exact absurd hc.2 (by decide)
    | some d =>
      rw [hnext] at h
      obtain ⟨k, hk, hd⟩ := le_of_next hb hnext
      have heq : k = c.toNat := eq_of_ofNat_eq hc.1 (hd.symm.trans h)
      omega

/-- ASCII is decoded from itself only: no other bytes give it. -/
theorem mem_of_mem_decodeLossy {c : Char} (hc : 0 < c.toNat ∧ c.toNat < 128) {s : Bytes}
    (h : c ∈ decodeLossy s) : UInt8.ofNat c.toNat ∈ s := by
  fun_induction decodeLossy s with
  | case1 => cases h
  | case2 b r ih =>
    rcases List.mem_cons.1 h with h | h
    · rw [(next_of_getD_eq hc h.symm).1]
      exact List.mem_cons_self
    · exact List.mem_cons_of_mem b ((next_suffix b r).subset (ih h))

/-- What is decoded to ASCII has its bytes. -/
theorem eq_of_decodeLossy_eq {s : Bytes} {t : List Char}
    (ht : ∀ c ∈ t, 0 < c.toNat ∧ c.toNat < 128) (h : decodeLossy s = t) :
    s = t.map fun c => UInt8.ofNat c.toNat := by
  fun_induction decodeLossy s generalizing t with
  | case1 =>
    subst h
    rfl
  | case2 b r ih =>
    subst h
    obtain ⟨hb, hr⟩ := next_of_getD_eq (ht _ List.mem_cons_self) rfl
    have hrest := ih (fun c hc => ht c (List.mem_cons_of_mem _ hc)) rfl
    rw [List.map_cons, ← hrest, ← hb, hr]

end Stratum.Text.Utf8
