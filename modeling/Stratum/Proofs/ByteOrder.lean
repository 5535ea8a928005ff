import Stratum.Proofs.Decoding
import Mathlib.Data.String.Basic

/-!
# The order of bytes

Texts are compared character by character, and what is written of them byte by byte. UTF-8 is made
so that this is the same order: the first byte of a longer character is above those of all shorter
ones, and the bytes behind it hold the number of the character from its highest bits to its lowest.

> `utf8_lt`: of two texts, the one that comes first has the bytes that come first.
-/

namespace Stratum.Text.Utf8

/-! ## One byte -/

/-- A smaller first byte decides. -/
theorem cons_lt_of_lt {m n : Nat} (hn : n < 256) (h : m < n) (s t : Bytes) :
    UInt8.ofNat m :: s < UInt8.ofNat n :: t := by
  refine List.cons_lt_cons_iff.2 (Or.inl ?_)
  rw [UInt8.lt_iff_toNat_lt, toNat_ofNat_of_lt (Nat.lt_trans h hn), toNat_ofNat_of_lt hn]
  exact h

/-- With the same first byte the rest decides. -/
theorem cons_lt_of_eq {m n : Nat} (h : m = n) {s t : Bytes} (hst : s < t) :
    UInt8.ofNat m :: s < UInt8.ofNat n :: t := by
  rw [h]
  exact List.cons_lt_cons_iff.2 (Or.inr ⟨rfl, hst⟩)

/-! ## One character -/

/-- The first byte of the character with this number. -/
def lead (n : Nat) : Nat :=
  if n ≤ 127 then n
  else if n ≤ 2047 then n / 64 % 32 + 192
  else if n ≤ 65535 then n / 4096 % 16 + 224
  else n / 262144 % 8 + 240

/-- A character starts with its lead byte. -/
theorem utf8EncodeChar_cons (c : Char) :
    ∃ r, String.utf8EncodeChar c = UInt8.ofNat (lead c.toNat) :: r := by
  rw [utf8EncodeChar_eq]
  unfold lead
  split
  next => exact ⟨_, rfl⟩
  split
  next => exact ⟨_, rfl⟩
  split
  next => exact ⟨_, rfl⟩
  next => exact ⟨_, rfl⟩

theorem lead_lt (n : Nat) : lead n < 256 := by
  unfold lead
  split_ifs <;> omega

/-- Greater characters do not have smaller lead bytes. -/
theorem lead_mono {m n : Nat} (h : m ≤ n) (hn : n < 0x110000) : lead m ≤ lead n := by
  unfold lead
  split_ifs <;> omega

/-- Characters with the same first byte are equally long. -/
theorem length_of_lead_eq {m n : Nat} (hm : m < 0x110000) (hn : n < 0x110000)
    (h : lead m = lead n) :
    (m ≤ 127 ↔ n ≤ 127) ∧ (m ≤ 2047 ↔ n ≤ 2047) ∧ (m ≤ 65535 ↔ n ≤ 65535) := by
  unfold lead at h
  split_ifs at h <;> omega

/-- **A smaller character has smaller bytes**, whatever follows either of them. -/
theorem utf8EncodeChar_lt {c d : Char} (h : c < d) (s t : Bytes) :
    String.utf8EncodeChar c ++ s < String.utf8EncodeChar d ++ t := by
  have hlt : c.toNat < d.toNat := UInt32.lt_iff_toNat_lt.1 h
  have hd : d.toNat < 0x110000 := by
    have hvalid : d.toNat < 0xd800 ∨ 0xdfff < d.toNat ∧ d.toNat < 0x110000 := d.valid
    omega
  rcases Nat.lt_or_eq_of_le (lead_mono hlt.le hd) with hlead | hlead
  · obtain ⟨r, hr⟩ := utf8EncodeChar_cons c
    obtain ⟨q, hq⟩ := utf8EncodeChar_cons d
    rw [hr, hq]
    exact cons_lt_of_lt (lead_lt _) hlead _ _
  -- Equally long characters differ behind the first byte, and the first difference decides.
  obtain ⟨h1, h2, h3⟩ := length_of_lead_eq (hlt.trans hd) hd hlead
  unfold lead at hlead
  rw [utf8EncodeChar_eq, utf8EncodeChar_eq]
  by_cases c1 : c.toNat ≤ 127
  · rw [if_pos c1, if_pos (h1.1 c1)] at hlead
    omega
  rw [if_neg c1, if_neg (mt h1.2 c1)] at hlead ⊢
  by_cases c2 : c.toNat ≤ 2047
  · rw [if_pos c2, if_pos (h2.1 c2)] at hlead ⊢
    refine cons_lt_of_eq hlead ?_
    exact cons_lt_of_lt (by omega) (by omega) _ _
  rw [if_neg c2, if_neg (mt h2.2 c2)] at hlead ⊢
  by_cases c3 : c.toNat ≤ 65535
  · rw [if_pos c3, if_pos (h3.1 c3)] at hlead ⊢
    refine cons_lt_of_eq hlead ?_
    by_cases hmid : c.toNat / 64 % 64 + 128 < d.toNat / 64 % 64 + 128
    · exact cons_lt_of_lt (by omega) hmid _ _
    · refine cons_lt_of_eq (by omega) ?_
      exact cons_lt_of_lt (by omega) (by omega) _ _
  · rw [if_neg c3, if_neg (mt h3.2 c3)] at hlead ⊢
    refine cons_lt_of_eq hlead ?_
    by_cases hhigh : c.toNat / 4096 % 64 + 128 < d.toNat / 4096 % 64 + 128
    · exact cons_lt_of_lt (by omega) hhigh _ _
    refine cons_lt_of_eq (by omega) ?_
    by_cases hmid : c.toNat / 64 % 64 + 128 < d.toNat / 64 % 64 + 128
    · exact cons_lt_of_lt (by omega) hmid _ _
    · refine cons_lt_of_eq (by omega) ?_
      exact cons_lt_of_lt (by omega) (by omega) _ _

/-! ## Texts -/

/-- A smaller text has smaller bytes. -/
theorem encode_lt {s t : List Char} (h : s < t) : encode s < encode t := by
  induction s generalizing t with
  | nil =>
    cases t with
    | nil => exact absurd h (List.not_lt_nil _)
    | cons d t =>
      obtain ⟨r, hr⟩ := utf8EncodeChar_cons d
      show [] < String.utf8EncodeChar d ++ encode t
      rw [hr]
      exact List.nil_lt_cons _ _
  | cons c s ih =>
    cases t with
    | nil => exact absurd h (List.not_lt_nil _)
    | cons d t =>
      show String.utf8EncodeChar c ++ encode s < String.utf8EncodeChar d ++ encode t
      rcases List.cons_lt_cons_iff.1 h with hlt | ⟨rfl, hst⟩
      · exact utf8EncodeChar_lt hlt _ _
      · exact List.append_left_lt (ih hst)

/-- **The order of texts is that of their bytes.** -/
theorem utf8_lt {s t : String} (h : s < t) : s.utf8 < t.utf8 := encode_lt (String.lt_iff.1 h)

end Stratum.Text.Utf8
