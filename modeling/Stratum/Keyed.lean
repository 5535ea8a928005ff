/-!
# Lists of pairs

Several tables of this library are lists of pairs that are looked up by their first parts. What
a look-up gives after a pair is put in front, or after pairs are taken out by their first parts,
does not depend on what the parts are. Nor does it when the second parts are changed.

> `lookup_filter`: taking pairs out hides their keys and no others.
-/

namespace Stratum.Keyed

variable {κ ν : Type} [BEq κ] [LawfulBEq κ] [DecidableEq κ]

/-- A look-up where a pair has been put in front. -/
theorem lookup_cons (k : κ) (e : κ × ν) (es : List (κ × ν)) :
    (e :: es).lookup k = if k = e.1 then some e.2 else es.lookup k := by
  by_cases h : k = e.1
  · rw [if_pos h, List.lookup_cons, h, beq_self_eq_true]
  · rw [if_neg h, List.lookup_cons, beq_false_of_ne h]

/-- A look-up where only the pairs are left whose keys satisfy `p`. -/
theorem lookup_filter (p : κ → Bool) (k : κ) (es : List (κ × ν)) :
    (es.filter fun e => p e.1).lookup k = if p k then es.lookup k else none := by
  induction es with
  | nil => simp
  | cons e r ih =>
    rw [List.filter_cons, lookup_cons]
    by_cases hk : k = e.1
    · subst hk
      by_cases hp : p e.1 = true
      · simp [hp, lookup_cons]
      · simp [hp, ih]
    · split <;> simp [lookup_cons, hk, ih]

/-- A look-up where every second part has been changed in view of the first. -/
theorem lookup_map {μ : Type} (φ : κ → ν → μ) (k : κ) (es : List (κ × ν)) :
    (es.map fun e => (e.1, φ e.1 e.2)).lookup k = (es.lookup k).map (φ k) := by
  induction es with
  | nil => rfl
  | cons e r ih =>
    rw [List.map_cons, lookup_cons, lookup_cons, ih]
    by_cases hk : k = e.1
    · rw [if_pos hk, if_pos hk, hk]
      rfl
    · rw [if_neg hk, if_neg hk]

/-- Where every key occurs once, the order of the pairs does not matter. -/
theorem lookup_of_perm {es fs : List (κ × ν)} (h : es.Perm fs) (hkeys : (es.map Prod.fst).Nodup)
    (k : κ) : es.lookup k = fs.lookup k := by
  induction h with
  | nil => rfl
  | cons e _ ih => rw [lookup_cons, lookup_cons, ih (List.nodup_cons.1 hkeys).2]
  | swap d e r =>
    have hne : e.1 ≠ d.1 := fun he => (List.nodup_cons.1 hkeys).1 (he ▸ List.mem_cons_self)
    rw [lookup_cons, lookup_cons, lookup_cons, lookup_cons]
    by_cases he : k = e.1
    · rw [if_pos he, if_pos he, if_neg fun hd => hne (he.symm.trans hd)]
    · rw [if_neg he, if_neg he]
  | trans hes _ ih ih' => rw [ih hkeys, ih' ((hes.map Prod.fst).nodup_iff.1 hkeys)]

end Stratum.Keyed
