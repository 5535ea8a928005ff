import Stratum.Files.Path
import Mathlib.Data.List.Basic

/-!
# Names in paths

A proper name that is joined to a path is one more name at the end of that path, whatever slashes
the path has. Other texts do other things: they start over, climb, stay, or demand a directory.

> `components_under_name`: the names of a path with a name joined to it.
> `utf8_join`: a path that is a text is joined as its bytes are.
-/

namespace Stratum.Path

open Text

variable {p q : Bytes} {n : Name}

/-- The names of a path, without the empty one for a slash at its end. -/
def stem (p : Bytes) : List Name := (p.splitOn slash).filter (!·.isEmpty)

/-- A slash at the end of a path adds an empty name to the others. -/
theorem components_eq (p : Bytes) :
    components p = stem p ++ if p.getLast? = some slash then [[]] else [] := by
  unfold components stem
  by_cases h : p.getLast? = some slash
  · simp [h]
  · simp [h]

/-- A slash keeps the names on both sides of it apart. -/
theorem stem_slash (p q : Bytes) : stem (p ++ slash :: q) = stem p ++ stem q := by
  unfold stem
  rw [List.splitOn_append_cons_self, List.filter_append]

/-- A path that needs no slash behind it is empty or ends in one. -/
theorem eq_slash_of_not_needsSlash (hp : p ≠ []) (h : needsSlash p = false) :
    ∃ q, p = q ++ [slash] := by
  have hlast : p.getLast hp = slash := by
    unfold needsSlash at h
    rw [List.getLast?_eq_some_getLast hp] at h
    simpa using h
  refine ⟨p.dropLast, ?_⟩
  rw [← hlast, List.dropLast_concat_getLast]

/-- The names of a relative path follow those of the path it is joined to. -/
theorem stem_under (hp : p ≠ []) (hq : isAbsolute q = false) :
    stem (under p q) = stem p ++ stem q := by
  unfold under
  rw [hq, if_neg Bool.false_ne_true]
  cases hslash : needsSlash p with
  | true => exact stem_slash p q
  | false =>
    obtain ⟨p, rfl⟩ := eq_slash_of_not_needsSlash hp hslash
    have hstem : stem (p ++ [slash]) = stem p := by
      rw [stem_slash, show stem [] = [] from rfl, List.append_nil]
    rw [if_neg Bool.false_ne_true, List.append_assoc, List.singleton_append, stem_slash, hstem]

/-- What a proper name is not, and what is not in it. -/
theorem isName_iff :
    isName n = true ↔ n ≠ [] ∧ n ≠ self ∧ n ≠ parent ∧ slash ∉ n ∧ (0 : UInt8) ∉ n := by
  unfold isName isReserved
  simp only [Bool.and_eq_true, bne_iff_ne, Bool.not_eq_true', List.any_eq_false, Bool.or_eq_true,
    beq_iff_eq, not_or, and_assoc, List.isEmpty_eq_false_iff]
  refine and_congr_right fun _ => and_congr_right fun _ => and_congr_right fun _ => ?_
  constructor
  · intro h
    exact ⟨fun hm => (h _ hm).1 rfl, fun hm => (h _ hm).2 rfl⟩
  · rintro ⟨hslash, hnul⟩ b hb
    exact ⟨fun he => hslash (he ▸ hb), fun he => hnul (he ▸ hb)⟩

/-- A proper name is a path of one name. -/
theorem stem_name (h : isName n = true) : stem n = [n] := by
  obtain ⟨hne, -, -, hslash, -⟩ := isName_iff.1 h
  unfold stem
  rw [List.splitOn_eq_singleton hslash]
  simp [hne]

/-- A proper name does not start at the root. -/
theorem isAbsolute_name (h : isName n = true) : isAbsolute n = false := by
  obtain ⟨-, -, -, hslash, -⟩ := isName_iff.1 h
  unfold isAbsolute
  rw [beq_eq_false_iff_ne]
  exact fun hhead => hslash (List.mem_of_head? hhead)

/-- A path ends as the name does that is joined to it. -/
theorem getLast?_under_name (p : Bytes) (h : isName n = true) :
    (under p n).getLast? = n.getLast? := by
  have hne : n ≠ [] := (isName_iff.1 h).1
  unfold under
  rw [isAbsolute_name h, if_neg Bool.false_ne_true]
  split
  · rw [← List.singleton_append, ← List.append_assoc, List.getLast?_append_of_ne_nil _ hne]
  · rw [List.getLast?_append_of_ne_nil _ hne]

/-- **The names of a path with a name joined to it**: that name comes last. -/
theorem components_under_name (hp : p ≠ []) (h : isName n = true) :
    components (under p n) = stem p ++ [n] := by
  have hlast : (under p n).getLast? ≠ some slash := by
    rw [getLast?_under_name p h]
    exact fun hl => (isName_iff.1 h).2.2.2.1 (List.mem_of_getLast? hl)
  rw [components_eq, if_neg hlast, List.append_nil, stem_under hp (isAbsolute_name h), stem_name h]

/-- A relative path starts where the path does that it is joined to. -/
theorem isAbsolute_under (hp : p ≠ []) (hq : isAbsolute q = false) :
    isAbsolute (under p q) = isAbsolute p := by
  unfold under
  rw [hq, if_neg Bool.false_ne_true]
  unfold isAbsolute
  split <;> simp [List.head?_append_of_ne_nil _ hp]

/-- What is in a path is in it when it is joined to another. -/
theorem mem_under {b : UInt8} (h : b ∈ q) : b ∈ under p q := by
  unfold under
  split
  · exact h
  · split
    · exact List.mem_append_right _ (List.mem_cons_of_mem _ h)
    · exact List.mem_append_right _ h

/-! ## Texts -/

/-- A path that is a text is joined as its bytes are. -/
theorem utf8_join (p q : String) : (join p q).utf8 = under p.utf8 q.utf8 := by
  have happend (s t : String) : (s ++ t).utf8 = s.utf8 ++ t.utf8 := by
    simp only [String.utf8, Utf8.encode, String.toList_append, List.flatMap_append]
  have hslash : "/".utf8 = [slash] := by decide +kernel
  unfold join under
  split
  next => rfl
  next =>
    split
    · rw [happend, happend, hslash, List.append_assoc, List.singleton_append]
    · exact happend p q

end Stratum.Path
