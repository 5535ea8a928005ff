/-!
# Computations that leave a trail

A computation that asks its surroundings for things is seen in two ways: what comes of it,
and what it asked for, in order. A `Trail` is both. When a step fails, the steps after it are
not taken, so what they would have asked for is not in the trail.

> `asked_bind`, `outcome_bind`: the trail and the outcome of two steps in a row.
-/

namespace Stratum

/-- What was asked for, in order, and what came of it. -/
structure Trail (ω ε α : Type) where
  asked : List ω
  outcome : Except ε α

namespace Trail

variable {ω ε α β : Type}

/-- Nothing is asked for, and the outcome is given. -/
def of (x : Except ε α) : Trail ω ε α := ⟨[], x⟩

/-- One thing is asked for. -/
def ask (q : ω) (x : Except ε α) : Trail ω ε α := ⟨[q], x⟩

/-- A failure without having asked for anything. -/
def fail (e : ε) : Trail ω ε α := of (.error e)

/-- One step after another; the second is taken only if the first succeeds. -/
def andThen (t : Trail ω ε α) (f : α → Trail ω ε β) : Trail ω ε β :=
  match t.outcome with
  | .error e => ⟨t.asked, .error e⟩
  | .ok a => ⟨t.asked ++ (f a).asked, (f a).outcome⟩

instance : Monad (Trail ω ε) where
  pure a := of (.ok a)
  bind := andThen

/-- Changes a failure. -/
def mapError {δ : Type} (f : ε → δ) (t : Trail ω ε α) : Trail ω δ α :=
  ⟨t.asked, t.outcome.mapError f⟩

/-- Turns what was asked for into what that comes down to. -/
def expand {χ : Type} (f : ω → List χ) (t : Trail ω ε α) : Trail χ ε α :=
  ⟨t.asked.flatMap f, t.outcome⟩

/-- What asks for nothing has the outcome it is given. -/
@[simp] theorem outcome_of (x : Except ε α) : (of x : Trail ω ε α).outcome = x := rfl

/-- So has what asks for one thing. -/
@[simp] theorem outcome_ask (q : ω) (x : Except ε α) : (ask q x).outcome = x := rfl

/-- A failure fails. -/
@[simp] theorem outcome_fail (e : ε) : (fail e : Trail ω ε α).outcome = .error e := rfl

/-- Changing a failure is changing that of the outcome. -/
@[simp] theorem outcome_mapError {δ : Type} (f : ε → δ) (t : Trail ω ε α) :
    (t.mapError f).outcome = t.outcome.mapError f := rfl

/-- What was asked for does not matter to the outcome. -/
@[simp] theorem outcome_expand {χ : Type} (f : ω → List χ) (t : Trail ω ε α) :
    (t.expand f).outcome = t.outcome := rfl

/-- A value asks nothing. -/
@[simp] theorem asked_pure (a : α) : (pure a : Trail ω ε α).asked = [] := rfl

/-- A value is its own outcome. -/
@[simp] theorem outcome_pure (a : α) : (pure a : Trail ω ε α).outcome = .ok a := rfl

/-- Behind a trail that went well comes the next one. -/
theorem bind_of_ok {t : Trail ω ε α} {a : α} (h : t.outcome = .ok a) (f : α → Trail ω ε β) :
    t >>= f = ⟨t.asked ++ (f a).asked, (f a).outcome⟩ := by
  simp only [bind, andThen, h]

/-- Behind a failure nothing is asked. -/
theorem bind_of_error {t : Trail ω ε α} {e : ε} (h : t.outcome = .error e)
    (f : α → Trail ω ε β) : t >>= f = ⟨t.asked, .error e⟩ := by
  simp only [bind, andThen, h]

/-- The outcome of two trails in a row is that of the second, or the failure of the first. -/
theorem outcome_bind (t : Trail ω ε α) (f : α → Trail ω ε β) :
    (t >>= f).outcome = t.outcome >>= fun a => (f a).outcome := by
  cases h : t.outcome with
  | error e => rw [bind_of_error h]; rfl
  | ok a => rw [bind_of_ok h]; rfl

/-- What is asked in two trails in a row is what is asked in the first, and then in the second if
the first went well. -/
theorem asked_bind (t : Trail ω ε α) (f : α → Trail ω ε β) :
    (t >>= f).asked = t.asked ++ (match t.outcome with
      | .error _ => []
      | .ok a => (f a).asked) := by
  cases h : t.outcome with
  | error e => rw [bind_of_error h]; simp
  | ok a => rw [bind_of_ok h]

/-- Mapping the identity changes nothing. -/
theorem id_map' (t : Trail ω ε α) : id <$> t = t := by
  obtain ⟨q, o⟩ := t
  cases o <;> simp [Functor.map, andThen, of]

/-- A value in front of a trail is handed on. -/
theorem pure_bind' (a : α) (f : α → Trail ω ε β) : pure a >>= f = f a := by
  simp [bind, pure, andThen, of]

/-- Three trails in a row may be grouped either way. -/
theorem bind_assoc' {γ : Type} (t : Trail ω ε α) (f : α → Trail ω ε β) (g : β → Trail ω ε γ) :
    t >>= f >>= g = t >>= fun a => f a >>= g := by
  obtain ⟨q, o⟩ := t
  cases o with
  | error e => rfl
  | ok a =>
    simp only [bind, andThen]
    cases (f a).outcome <;> simp

instance : LawfulMonad (Trail ω ε) := LawfulMonad.mk' _ id_map' pure_bind' bind_assoc'

end Trail

end Stratum
