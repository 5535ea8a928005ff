import Stratum.Keyed

/-!
# Texts keyed by single characters

A finite map from characters to texts, kept in ascending order of the keys, so that two
maps with the same entries are the same value. The view is `get?`: every operation is
described by what it does to a look-up.

> `get?_insert`, `get?_insertNew`, `get?_filterKeys`: what each operation does to a look-up.
> `ext_get?`: maps that agree on every look-up are equal.
-/

namespace Stratum.Text

/-- Entries in strictly ascending order of their keys. -/
def Ascending (es : List (Char × String)) : Prop := es.Pairwise fun a b => a.1.toNat < b.1.toNat

instance (es : List (Char × String)) : Decidable (Ascending es) :=
  inferInstanceAs (Decidable (es.Pairwise _))

/-- A map from characters to texts. -/
structure CharMap where
  entries : List (Char × String)
  ascending : Ascending entries
deriving DecidableEq

namespace CharMap

/-- The map without entries. -/
def empty : CharMap := ⟨[], List.Pairwise.nil⟩

instance : Inhabited CharMap := ⟨empty⟩

/-- Puts an entry into its place, instead of one with the same key. -/
def insertEntry (k : Char) (v : String) : List (Char × String) → List (Char × String)
  | [] => [(k, v)]
  | (j, w) :: r =>
    if k.toNat < j.toNat then (k, v) :: (j, w) :: r
    else if k = j then (k, v) :: r
    else (j, w) :: insertEntry k v r

/-- Characters with one code point are one character. -/
theorem toNat_inj {a b : Char} (h : a.toNat = b.toNat) : a = b :=
  Char.ext (UInt32.toNat_inj.1 h)

/-- An entry that is there was put there or had been there. -/
theorem mem_insertEntry {k : Char} {v : String} {es : List (Char × String)} {e : Char × String}
    (h : e ∈ insertEntry k v es) : e = (k, v) ∨ e ∈ es := by
  fun_induction insertEntry k v es with
  | case1 => exact Or.inl (List.mem_singleton.1 h)
  | case2 => exact (List.mem_cons.1 h)
  | case3 =>
    rcases List.mem_cons.1 h with h | h
    · exact Or.inl h
    · exact Or.inr (List.mem_cons_of_mem _ h)
  | case4 j w r _ _ ih =>
    rcases List.mem_cons.1 h with h | h
    · exact Or.inr (h ▸ List.mem_cons_self)
    · exact (ih h).imp_right (List.mem_cons_of_mem _)

/-- Putting an entry into its place keeps the order. -/
theorem ascending_insertEntry {k : Char} {v : String} {es : List (Char × String)}
    (h : Ascending es) : Ascending (insertEntry k v es) := by
  unfold Ascending at *
  fun_induction insertEntry k v es with
  | case1 => exact List.pairwise_singleton _ _
  | case2 j w r hlt =>
    refine List.Pairwise.cons (fun e he => ?_) h
    rcases List.mem_cons.1 he with rfl | he
    · exact hlt
    · exact Nat.lt_trans hlt ((List.pairwise_cons.1 h).1 e he)
  | case3 => exact List.Pairwise.cons (List.pairwise_cons.1 h).1 (List.pairwise_cons.1 h).2
  | case4 j w r hlt hne ih =>
    refine List.Pairwise.cons (fun e he => ?_) (ih (List.pairwise_cons.1 h).2)
    rcases mem_insertEntry he with rfl | he
    · exact Nat.lt_of_le_of_ne (Nat.not_lt.1 hlt) fun heq => hne (toNat_inj heq.symm)
    · exact (List.pairwise_cons.1 h).1 e he

/-- The text under a key. -/
def get? (m : CharMap) (k : Char) : Option String := m.entries.lookup k

/-- Whether there is a text under a key. -/
def contains (m : CharMap) (k : Char) : Bool := (m.get? k).isSome

/-- The map with `v` under `k`, whatever was there before. -/
def insert (m : CharMap) (k : Char) (v : String) : CharMap :=
  ⟨insertEntry k v m.entries, ascending_insertEntry m.ascending⟩

/-- The map with `v` under `k`, unless there is a text already. -/
def insertNew (m : CharMap) (k : Char) (v : String) : CharMap :=
  if m.contains k then m else m.insert k v

/-- The entries whose keys satisfy `p`. -/
def filterKeys (m : CharMap) (p : Char → Bool) : CharMap :=
  ⟨m.entries.filter fun e => p e.1, List.Pairwise.filter _ m.ascending⟩

/-- A look-up gives the entry that was put in, and else what it gave before. -/
theorem lookup_insertEntry {k : Char} {v : String} (j : Char) {es : List (Char × String)}
    (h : Ascending es) :
    (insertEntry k v es).lookup j = if j = k then some v else es.lookup j := by
  unfold Ascending at h
  fun_induction insertEntry k v es with
  | case1 => rw [Keyed.lookup_cons]
  | case2 => rw [Keyed.lookup_cons]
  | case3 => by_cases hj : j = k <;> simp [Keyed.lookup_cons, hj]
  | case4 i w r hlt hne ih =>
    rw [Keyed.lookup_cons, Keyed.lookup_cons, ih (List.pairwise_cons.1 h).2]
    by_cases hj : j = i
    · simp [hj, Ne.symm hne]
    · simp [hj]

/-- The empty map has no entries. -/
@[simp] theorem get?_empty (k : Char) : empty.get? k = none := rfl

/-- Inserting changes the look-up of one key. -/
@[simp] theorem get?_insert (m : CharMap) (k j : Char) (v : String) :
    (m.insert k v).get? j = if j = k then some v else m.get? j :=
  lookup_insertEntry j m.ascending

/-- Inserting a new key leaves a key that is there alone. -/
theorem get?_insertNew (m : CharMap) (k j : Char) (v : String) :
    (m.insertNew k v).get? j = if j = k then some ((m.get? k).getD v) else m.get? j := by
  unfold insertNew contains
  by_cases hj : j = k
  · subst hj
    cases h : m.get? j <;> simp [h]
  · simp only [hj, if_false]
    split
    · rfl
    · simp [hj]

/-- Filtering hides the keys that are left out. -/
@[simp] theorem get?_filterKeys (m : CharMap) (p : Char → Bool) (k : Char) :
    (m.filterKeys p).get? k = if p k then m.get? k else none :=
  Keyed.lookup_filter p k m.entries

/-- A key before all others is not there. -/
theorem lookup_eq_none_of_lt {k : Char} {es : List (Char × String)}
    (h : ∀ e ∈ es, k.toNat < e.1.toNat) : es.lookup k = none := by
  rw [List.lookup_eq_none_iff]
  intro e he
  have := h e he
  simp only [ne_eq, bne_iff_ne]
  intro hk
  subst hk
  omega

/-- Ascending lists that agree on every look-up are equal. -/
theorem ext_lookup {es fs : List (Char × String)} (he : Ascending es) (hf : Ascending fs)
    (h : ∀ k, es.lookup k = fs.lookup k) : es = fs := by
  unfold Ascending at he hf
  induction es generalizing fs with
  | nil =>
    cases fs with
    | nil => rfl
    | cons f fs => have := h f.1; simp [Keyed.lookup_cons] at this
  | cons e es ih =>
    cases fs with
    | nil => have := h e.1; simp [Keyed.lookup_cons] at this
    | cons f fs =>
      have ⟨he1, he2⟩ := List.pairwise_cons.1 he
      have ⟨hf1, hf2⟩ := List.pairwise_cons.1 hf
      have hkey : e.1 = f.1 := by
        rcases Nat.lt_trichotomy e.1.toNat f.1.toNat with hlt | heq | hlt
        · have := h e.1
          rw [Keyed.lookup_cons, Keyed.lookup_cons,
            lookup_eq_none_of_lt (fun g hg => Nat.lt_trans hlt (hf1 g hg))] at this
          by_cases hk : e.1 = f.1
          · exact hk
          · simp [hk] at this
        · exact toNat_inj heq
        · have := h f.1
          rw [Keyed.lookup_cons, Keyed.lookup_cons,
            lookup_eq_none_of_lt (fun g hg => Nat.lt_trans hlt (he1 g hg))] at this
          by_cases hk : f.1 = e.1
          · exact hk.symm
          · simp [hk] at this
      have hval : e.2 = f.2 := by
        have := h e.1
        rw [Keyed.lookup_cons, Keyed.lookup_cons, hkey] at this
        simpa using this
      have htail : ∀ k, es.lookup k = fs.lookup k := by
        intro k
        by_cases hk : k = e.1
        · rw [hk, lookup_eq_none_of_lt he1, hkey, lookup_eq_none_of_lt hf1]
        · have := h k
          rw [Keyed.lookup_cons, Keyed.lookup_cons] at this
          simpa [hk, hkey ▸ hk] using this
      rw [ih he2 hf2 htail, Prod.ext hkey hval]

/-- Maps that agree on every look-up are equal. -/
theorem ext_get? {m n : CharMap} (h : ∀ k, m.get? k = n.get? k) : m = n := by
  obtain ⟨es, he⟩ := m
  obtain ⟨fs, hf⟩ := n
  have : es = fs := ext_lookup he hf h
  subst this
  rfl

end CharMap

end Stratum.Text
