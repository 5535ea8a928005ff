import Stratum.Failure
import Stratum.Proofs.Outcome

/-!
# Failures that mean a missing repository

Of all failures one says that the repository itself is not there. `Missing x` means that the
attempt `x` ends with it. An attempt is a chain of steps, so whether it can end so is a question
about each step, and most steps cannot.

> `missing_bind_iff`: a chain ends with a missing repository exactly if one of its steps does,
> after those before it went well.
-/

namespace Stratum

variable {ε α β : Type}

/-- The attempt fails, and what it says is that the repository is not there. -/
def Missing (x : Except Failure α) : Prop := ∃ e, x = .error e ∧ e.isNotFound = true

/-- Success is no failure. -/
@[simp] theorem not_missing_ok (a : α) : ¬Missing (.ok a) := by
  rintro ⟨e, h, -⟩
  cases h

/-- A failure speaks for itself. -/
@[simp] theorem missing_error_iff {e : Failure} :
    Missing (.error e : Except Failure α) ↔ e.isNotFound = true := by
  constructor
  · rintro ⟨d, h, hd⟩
    injection h with h
    exact h ▸ hd
  · intro h
    exact ⟨e, rfl, h⟩

/-- A chain of two steps ends with a missing repository exactly if the first does, or the second
after the first went well. -/
theorem missing_bind_iff {x : Except Failure α} {f : α → Except Failure β} :
    Missing (x >>= f) ↔ Missing x ∨ ∃ a, x = .ok a ∧ Missing (f a) := by
  cases x with
  | error e => simp
  | ok a => simp

/-- A failure of another kind, told as a failure here, is not about the repository. -/
theorem not_missing_mapError {x : Except ε α} {g : ε → Failure}
    (hg : ∀ e, (g e).isNotFound = false) : ¬Missing (x.mapError g) := by
  rintro ⟨d, h, hd⟩
  obtain ⟨e, -, rfl⟩ := Outcome.mapError_eq_error_iff.1 h
  rw [hg e] at hd
  cases hd

/-- Where neither of two steps can end with a missing repository, the chain cannot. -/
theorem not_missing_bind {x : Except Failure α} {f : α → Except Failure β} (hx : ¬Missing x)
    (hf : ∀ a, ¬Missing (f a)) : ¬Missing (x >>= f) := by
  rw [missing_bind_iff]
  rintro (h | ⟨a, -, h⟩)
  · exact hx h
  · exact hf a h

/-- Making something of the result changes no failure. -/
theorem missing_map_iff {x : Except Failure α} {f : α → β} : Missing (x.map f) ↔ Missing x := by
  cases x with
  | error e => simp [Except.map]
  | ok a => simp [Except.map]

end Stratum
