import Mathlib.Data.List.Basic
import Stratum.CommandLine.Run

/-!
# The lines of a complaint

What went wrong is told in lines, and so are the causes below it. URLs and names are told as they
are, with the line ends that they may have, so it is not at once clear that two complaints do not
read the same. Still a text can be told from its lines; and lines that go on behind a text are those
of a longer text, which begins with it.

> `linesOf_inj`: different texts have different lines.
> `prefix_of_complaintLines`: a complaint that reads like one line begins as this line does.
-/

namespace Stratum.CommandLine

/-! ## Texts -/

/-- What is written of the first pieces stands in front of what is written of all. -/
theorem intercalate_prefix {α : Type} (sep : α) (xs ys : List (List α)) :
    [sep].intercalate xs <+: [sep].intercalate (xs ++ ys) := by
  induction xs with
  | nil => exact List.nil_prefix
  | cons x xs ih =>
    cases xs with
    | nil =>
      cases ys with
      | nil => exact List.prefix_rfl
      | cons y ys =>
        show [sep].intercalate [x] <+: [sep].intercalate (x :: y :: ys)
        rw [List.intercalate_singleton, List.intercalate_cons_cons, List.append_assoc]
        exact List.prefix_append _ _
    | cons x' xs =>
      show [sep].intercalate (x :: x' :: xs) <+: [sep].intercalate (x :: x' :: (xs ++ ys))
      rw [List.intercalate_cons_cons, List.intercalate_cons_cons]
      exact (List.prefix_append_right_inj _).2 ih

/-- A text whose lines are continued by others is the beginning of a text. -/
theorem prefix_of_linesOf {s t : String} {more : List String}
    (h : linesOf s ++ more = linesOf t) : s.toList <+: t.toList := by
  have hpieces : s.toList.splitOn '\n' ++ more.map String.toList = t.toList.splitOn '\n' := by
    have hmap := congrArg (List.map String.toList) h
    unfold linesOf at hmap
    simpa [List.map_map, Function.comp_def] using hmap
  have hs : ['\n'].intercalate (s.toList.splitOn '\n') = s.toList := List.intercalate_splitOn '\n'
  have ht : ['\n'].intercalate (t.toList.splitOn '\n') = t.toList := List.intercalate_splitOn '\n'
  rw [← hs, ← ht, ← hpieces]
  exact intercalate_prefix _ _ _

/-- **Different texts have different lines.** -/
theorem linesOf_inj {s t : String} : linesOf s = linesOf t ↔ s = t := by
  refine ⟨fun h => ?_, congrArg linesOf⟩
  have hlines : linesOf s ++ [] = linesOf t := (List.append_nil _).trans h
  have hback : linesOf t ++ [] = linesOf s := (List.append_nil _).trans h.symm
  have hst := prefix_of_linesOf hlines
  have hts := prefix_of_linesOf hback
  exact String.toList_inj.1 (hst.eq_of_length_le hts.length_le)

/-- A text has one line more than line ends. -/
theorem length_linesOf (s : String) : (linesOf s).length = s.toList.count '\n' + 1 := by
  unfold linesOf
  rw [List.length_map]
  induction s.toList with
  | nil => rfl
  | cons c r ih =>
    rw [List.splitOn_cons_eq_if_modifyHead, List.count_cons]
    split
    next hc => rw [List.length_cons, ih]
    next hc => rw [List.length_modifyHead, ih, Nat.add_zero]

/-- No text is without lines. -/
theorem linesOf_ne_nil (s : String) : linesOf s ≠ [] := by
  rw [← List.length_pos_iff, length_linesOf]
  exact Nat.succ_pos _

/-! ## Complaints -/

variable {what text : String} {why : List String}

/-- A complaint without a cause is what went wrong. -/
theorem complaintLines_singleton (what : String) :
    complaintLines [what] = linesOf ("Error: " ++ what) := List.append_nil _

/-- **A complaint that reads like one text begins as the text does.** -/
theorem prefix_of_complaintLines
    (h : complaintLines (what :: why) = linesOf ("Error: " ++ text)) :
    what.toList <+: text.toList := by
  have hprefix := prefix_of_linesOf h
  rw [String.toList_append, String.toList_append] at hprefix
  exact (List.prefix_append_right_inj _).1 hprefix

/-- Without a cause it reads like that text alone. -/
theorem complaintLines_singleton_eq_iff :
    complaintLines [what] = linesOf ("Error: " ++ text) ↔ what = text := by
  rw [complaintLines_singleton, linesOf_inj, String.append_right_inj]

/-- With a cause it has more lines than what went wrong. -/
theorem count_of_complaintLines (hwhy : why ≠ [])
    (h : complaintLines (what :: why) = linesOf ("Error: " ++ text)) :
    what.toList.count '\n' < text.toList.count '\n' := by
  have hlength := congrArg List.length h
  have hmore : 0 < (whyLines why).length := by
    unfold whyLines
    split
    next => exact absurd rfl hwhy
    next => exact Nat.succ_pos _
    next => exact Nat.succ_pos _
  unfold complaintLines at hlength
  rw [List.length_append, length_linesOf, length_linesOf, String.toList_append,
    String.toList_append, List.count_append, List.count_append] at hlength
  omega

/-- The lines that are seen in the end are those of the failure. -/
theorem complaint_outcome_eq_iff {r : Run Unit} {lines : List String} (hne : lines ≠ []) :
    (outcome r).complaint = lines ↔ ∃ c, r.outcome = .error c ∧ complaintLines c = lines := by
  unfold outcome
  cases r.outcome with
  | error c => simp
  | ok u => simp [hne.symm]

end Stratum.CommandLine
