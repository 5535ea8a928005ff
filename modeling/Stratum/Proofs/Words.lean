import Stratum.Proofs.Lines

/-!
# Words and the blanks between them

A text in words is cut at its blanks, however many stand between two words, and put together again
with one space for each of these gaps.

> `words_append`: the first word is cut off at the gap behind it.
> `trim_words`: a text that starts with a word and ends with one has nothing to trim.
-/

namespace Stratum.Text

/-- One character or more, and none of them a blank. -/
def IsWord (w : List Char) : Prop := w ≠ [] ∧ ∀ c ∈ w, isBlank c = false

instance (w : List Char) : Decidable (IsWord w) :=
  @instDecidableAnd _ _ inferInstance (List.decidableBAll (fun c => isBlank c = false) w)

/-- One blank or more. -/
def IsGap (g : List Char) : Prop := g ≠ [] ∧ ∀ c ∈ g, isBlank c = true

instance (g : List Char) : Decidable (IsGap g) :=
  @instDecidableAnd _ _ inferInstance (List.decidableBAll (fun c => isBlank c = true) g)

theorem IsWord.isEmpty {w : List Char} (h : IsWord w) : w.isEmpty = false :=
  List.isEmpty_eq_false_iff.2 h.1

/-- Words with something that is no blank between them are one. -/
theorem isWord_append_cons {v w : List Char} {c : Char} (hc : isBlank c = false) (hv : IsWord v)
    (hw : IsWord w) : IsWord (v ++ c :: w) := by
  refine ⟨List.append_ne_nil_of_left_ne_nil hv.1 _, ?_⟩
  rw [List.forall_mem_append, List.forall_mem_cons]
  exact ⟨hv.2, hc, hw.2⟩

/-- A word goes on without blanks. -/
theorem isWord_append {v w : List Char} (hv : IsWord v) (hw : ∀ c ∈ w, isBlank c = false) :
    IsWord (v ++ w) :=
  ⟨List.append_ne_nil_of_left_ne_nil hv.1 w, List.forall_mem_append.2 ⟨hv.2, hw⟩⟩

/-- A word has no blanks before it. -/
theorem IsWord.skipBlank_append {w : List Char} (h : IsWord w) (t : List Char) :
    skipBlank (w ++ t) = w ++ t := by
  obtain ⟨hne, hw⟩ := h
  cases w with
  | nil => exact absurd rfl hne
  | cons c w => exact skipBlank_cons (hw c List.mem_cons_self) _

/-- A text has the words before a blank, and those behind it. -/
theorem words_append_cons {b : Char} (hb : isBlank b = true) (s t : List Char) :
    words (s ++ b :: t) = words s ++ words t := by
  unfold words
  rw [List.splitOnP_append_cons s t hb, List.filter_append]

/-- A word is one word. -/
theorem words_of_isWord {w : List Char} (h : IsWord w) : words w = [w] := by
  unfold words
  rw [List.splitOnP_eq_singleton h.2, List.filter_cons_of_pos (by rw [h.isEmpty]; rfl)]
  rfl

theorem words_cons_of_blank {b : Char} (hb : isBlank b = true) (t : List Char) :
    words (b :: t) = words t :=
  words_append_cons hb [] t

/-- Blanks in front are no words. -/
theorem words_append_of_blank {g : List Char} (hg : ∀ c ∈ g, isBlank c = true) (t : List Char) :
    words (g ++ t) = words t := by
  induction g with
  | nil => rfl
  | cons b g ih =>
    rw [List.cons_append, words_cons_of_blank (hg b List.mem_cons_self)]
    exact ih fun c hc => hg c (List.mem_cons_of_mem b hc)

/-- **The first word is cut off at the gap behind it.** -/
theorem words_append {w g : List Char} (hw : IsWord w) (hg : IsGap g) (t : List Char) :
    words (w ++ (g ++ t)) = w :: words t := by
  obtain ⟨hne, hblank⟩ := hg
  cases g with
  | nil => exact absurd rfl hne
  | cons b g =>
    rw [List.cons_append, words_append_cons (hblank b List.mem_cons_self), words_of_isWord hw,
      words_append_of_blank fun c hc => hblank c (List.mem_cons_of_mem b hc)]
    rfl

/-- A word has nothing to trim. -/
theorem IsWord.trim_eq {w : List Char} (h : IsWord w) : trim w = w := by
  unfold trim skipBlank
  rw [dropWhile_eq_self h.2, dropEndWhile_eq_self h.2]

/-- **A text that starts with a word and ends with one has nothing to trim.** -/
theorem trim_words {v w : List Char} (hv : IsWord v) (hw : IsWord w) (s : List Char) :
    trim (v ++ (s ++ w)) = v ++ (s ++ w) := by
  unfold trim
  rw [hv.skipBlank_append]
  rcases List.eq_nil_or_concat w with hnil | ⟨w, c, rfl⟩
  · exact absurd hnil hw.1
  · have hc : isBlank c = false := hw.2 c (by simp)
    have hsplit : v ++ (s ++ w.concat c) = v ++ (s ++ w) ++ c :: [] := by simp
    rw [hsplit, dropEndWhile_append_cons hc]
    rfl

end Stratum.Text
