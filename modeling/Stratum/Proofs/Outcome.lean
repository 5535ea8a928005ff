import Stratum.Trail
import Mathlib.Control.Monad.Basic
import Mathlib.Data.List.Forall2

/-!
# Outcomes of steps in a row

Almost everything in this library can fail, and most of it is one step after another. How two
steps come to their outcome is said here once, so that a proof about a chain of steps takes it
apart by names and never by unfolding.

> `bind_eq_ok_iff`: two steps succeed if both do.
> `bind_eq_error_iff`: they fail if the first does, or the second after it.
> `mapM_eq_ok_iff`: a list whose members all succeed gives what its members give.
> `exists_mem_of_mapM_eq_error`: a list that fails does so by one of its members.
-/

namespace Stratum.Outcome

variable {ε δ α β : Type}

/-- Behind a success comes the next step. -/
@[simp] theorem ok_bind (a : α) (f : α → Except ε β) : (Except.ok a >>= f) = f a := rfl

/-- Behind a failure nothing comes. -/
@[simp] theorem error_bind (e : ε) (f : α → Except ε β) :
    ((Except.error e : Except ε α) >>= f) = .error e := rfl

/-- Two steps succeed if both do. -/
theorem bind_eq_ok_iff {x : Except ε α} {f : α → Except ε β} {b : β} :
    x >>= f = .ok b ↔ ∃ a, x = .ok a ∧ f a = .ok b := by
  cases x with
  | error e => simp
  | ok a => simp

/-- Two steps fail if the first does, or the second after it. -/
theorem bind_eq_error_iff {x : Except ε α} {f : α → Except ε β} {e : ε} :
    x >>= f = .error e ↔ x = .error e ∨ ∃ a, x = .ok a ∧ f a = .error e := by
  cases x with
  | error e => simp
  | ok a => simp

/-- A success has a value. -/
theorem isOk_iff {x : Except ε α} : x.isOk = true ↔ ∃ a, x = .ok a := by
  cases x <;> simp [Except.isOk, Except.toBool]

/-- Changing the failure does not touch a success. -/
theorem mapError_eq_ok_iff {x : Except ε α} {g : ε → δ} {a : α} :
    x.mapError g = .ok a ↔ x = .ok a := by
  cases x <;> simp [Except.mapError]

/-- A changed failure was a failure before. -/
theorem mapError_eq_error_iff {x : Except ε α} {g : ε → δ} {d : δ} :
    x.mapError g = .error d ↔ ∃ e, x = .error e ∧ g e = d := by
  cases x <;> simp [Except.mapError]

/-- What is made of a success comes of a success. -/
theorem map_eq_ok_iff {x : Except ε α} {f : α → β} {b : β} :
    x.map f = .ok b ↔ ∃ a, x = .ok a ∧ f a = b := by
  cases x <;> simp [Except.map]

/-- Making something of a success leaves a failure as it is. -/
theorem map_eq_error_iff {x : Except ε α} {f : α → β} {e : ε} :
    x.map f = .error e ↔ x = .error e := by
  cases x <;> simp [Except.map]

/-- **A list succeeds with what its members give**, one result for each of them. -/
theorem mapM_eq_ok_iff {f : α → Except ε β} {xs : List α} {ys : List β} :
    xs.mapM f = .ok ys ↔ List.Forall₂ (fun x y => f x = .ok y) xs ys := by
  induction xs generalizing ys with
  | nil =>
    rw [List.mapM_nil, List.forall₂_nil_left_iff]
    exact ⟨fun h => (Except.ok.inj h).symm, fun h => congrArg Except.ok h.symm⟩
  | cons x xs ih =>
    rw [List.mapM_cons, bind_eq_ok_iff, List.forall₂_cons_left_iff]
    constructor
    · rintro ⟨y, hy, h⟩
      obtain ⟨zs, hzs, h⟩ := bind_eq_ok_iff.1 h
      cases h
      exact ⟨y, zs, hy, ih.1 hzs, rfl⟩
    · rintro ⟨y, zs, hy, hzs, rfl⟩
      exact ⟨y, hy, bind_eq_ok_iff.2 ⟨zs, ih.2 hzs, rfl⟩⟩

/-- What comes of a list whose members all succeed is what comes of its members. -/
theorem mem_mapM_iff {f : α → Except ε β} {xs : List α} {ys : List β} (h : xs.mapM f = .ok ys)
    {y : β} : y ∈ ys ↔ ∃ x ∈ xs, f x = .ok y := by
  rw [mapM_eq_ok_iff] at h
  induction h with
  | nil => simp
  | cons hx _ ih =>
    rw [List.mem_cons, ih]
    simp [hx, eq_comm]

/-- A list succeeds exactly if all its members do. -/
theorem exists_mapM_eq_ok_iff {f : α → Except ε β} {xs : List α} :
    (∃ ys, xs.mapM f = .ok ys) ↔ ∀ x ∈ xs, ∃ y, f x = .ok y := by
  induction xs with
  | nil => exact iff_of_true ⟨[], rfl⟩ (List.forall_mem_nil _)
  | cons x xs ih =>
    rw [List.forall_mem_cons, ← ih, List.mapM_cons]
    constructor
    · intro h
      obtain ⟨ys, h⟩ := h
      obtain ⟨y, hy, h⟩ := bind_eq_ok_iff.1 h
      obtain ⟨zs, hzs, -⟩ := bind_eq_ok_iff.1 h
      exact ⟨⟨y, hy⟩, zs, hzs⟩
    · intro h
      obtain ⟨⟨y, hy⟩, zs, hzs⟩ := h
      refine ⟨y :: zs, ?_⟩
      rw [hy, ok_bind, hzs]
      rfl

/-- A list that fails does so by one of its members. -/
theorem exists_mem_of_mapM_eq_error {f : α → Except ε β} {xs : List α} {e : ε}
    (h : xs.mapM f = .error e) : ∃ x ∈ xs, f x = .error e := by
  induction xs with
  | nil => cases h
  | cons x xs ih =>
    rw [List.mapM_cons] at h
    rcases bind_eq_error_iff.1 h with h | ⟨y, -, h⟩
    · exact ⟨x, List.mem_cons_self, h⟩
    rcases bind_eq_error_iff.1 h with h | ⟨ys, -, h⟩
    · obtain ⟨z, hz, he⟩ := ih h
      exact ⟨z, List.mem_cons_of_mem x hz, he⟩
    · cases h

end Stratum.Outcome
