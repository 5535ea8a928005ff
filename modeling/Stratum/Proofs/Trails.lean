import Stratum.Trail

/-!
# What is found on a trail

Two things are said of a trail again and again: that everything on it is of one sort, and that
what is on it fits the outcome in some way, so that once a thing has been asked for, the
computation is bound to end as that thing demands. Both are carried from the steps of a computation
to the whole, so that a computation of many steps is looked at one step at a time.

> `only_bind`: a chain asks for one sort of things if each of its steps does.
> `heeds_bind`: a chain heeds what each of its steps heeds, if no later step undoes it.
-/

namespace Stratum.Trail

variable {ω ε α β δ χ : Type}

/-- Everything that is asked for is of one sort. -/
def Only (sort : ω → Prop) (t : Trail ω ε α) : Prop := ∀ q ∈ t.asked, sort q

/-- The outcome is what everything that is asked for demands. -/
def Heeds (P : ω → Except ε α → Prop) (t : Trail ω ε α) : Prop := ∀ q ∈ t.asked, P q t.outcome

variable {t : Trail ω ε α}

/-- Behind what is asked for first, a quiet step asks for nothing more. -/
theorem asked_bind_of_quiet {f : α → Trail ω ε β} (hf : ∀ a, (f a).asked = []) :
    (t >>= f).asked = t.asked := by
  rw [asked_bind]
  cases t.outcome with
  | error e => exact List.append_nil _
  | ok a =>
    show t.asked ++ (f a).asked = t.asked
    rw [hf, List.append_nil]

/-! ## Things that are heeded -/

section Heeds

variable {P : ω → Except ε α → Prop} {Q : ω → Except ε β → Prop}

/-- Where nothing is asked for, there is nothing to heed. -/
theorem heeds_of (x : Except ε α) : (of x : Trail ω ε α).Heeds P := by
  intro q hq
  cases hq

/-- **A chain heeds what each of its steps heeds**, if what the first step comes to is not undone
by those after it. -/
theorem heeds_bind {f : α → Trail ω ε β} (ht : t.Heeds P)
    (hstays : ∀ q, P q t.outcome → Q q (t >>= f).outcome)
    (hf : ∀ a, t.outcome = .ok a → (f a).Heeds Q) : (t >>= f).Heeds Q := by
  intro q hq
  cases h : t.outcome with
  | error e =>
    rw [bind_of_error h] at hq
    exact hstays q (ht q hq)
  | ok a =>
    rw [bind_of_ok h] at hq
    rcases List.mem_append.1 hq with hq | hq
    · exact hstays q (ht q hq)
    · rw [bind_of_ok h]
      exact hf a h q hq

/-- A changed failure heeds what was heeded before. -/
theorem heeds_mapError {g : ε → δ} {R : ω → Except δ α → Prop} (h : t.Heeds P)
    (hR : ∀ q, P q t.outcome → R q (t.outcome.mapError g)) : (t.mapError g).Heeds R :=
  fun q hq => hR q (h q hq)

/-- What is heeded of all the things that others come down to is heeded of these others. -/
theorem heeds_expand {f : ω → List χ} {R : χ → Except ε α → Prop}
    (h : t.Heeds fun q o => ∀ y ∈ f q, R y o) : (t.expand f).Heeds R := by
  intro y hy
  obtain ⟨q, hq, hy⟩ := List.mem_flatMap.1 hy
  exact h q hq y hy

end Heeds

/-! ## One sort of things -/

section Only

variable {sort : ω → Prop}

/-- Where nothing is asked for, nothing of another sort is. -/
theorem only_of (x : Except ε α) : (of x : Trail ω ε α).Only sort := by
  intro q hq
  cases hq

/-- **A chain asks for one sort of things if each of its steps does.** -/
theorem only_bind {f : α → Trail ω ε β} (ht : t.Only sort)
    (hf : ∀ a, t.outcome = .ok a → (f a).Only sort) : (t >>= f).Only sort :=
  heeds_bind (P := fun q _ => sort q) (Q := fun q _ => sort q) ht (fun _ h => h) hf

/-- What is asked for in the end is what each thing that is asked for comes down to. -/
theorem only_expand {f : ω → List χ} {sort : χ → Prop} (h : t.Only fun q => ∀ y ∈ f q, sort y) :
    (t.expand f).Only sort :=
  heeds_expand (R := fun y _ => sort y) h

end Only

end Stratum.Trail
