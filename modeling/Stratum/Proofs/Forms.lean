import Stratum.Proofs.Fronts
import Stratum.Repository.Source
import Mathlib.Data.List.Pairwise

/-!
# Six forms and no doubt

A time may be written in six forms, which are tried in turn. No text is a different time in two of
them. The two forms that start with names, and a date in numbers, cannot be taken for one another.
The Internet form ends with a zone, which the forms without one do not take; of these, one has a
letter where the others have blanks, and the others are the same but for a fraction of a second,
which is nothing where it is missing.

> `Form.agree`: two forms that take a text agree on it.
> `readTime_any_order`: whatever the order in which the forms are tried, the result is the same.
-/

namespace Stratum.Time

open Text Scan

variable {s r : List Char}

/-! ## Dates and times of day -/

namespace Pattern

variable {f g : Fields} {p q : List Item} {x : Fields × List Char} {t : Instant}

/-- A pattern in two parts is read by the one and then by the other. -/
theorem run_append_eq_some_iff :
    run f s (p ++ q) = some x ↔ ∃ g r, run f s p = some (g, r) ∧ run g r q = some x := by
  rw [run_append, Option.bind_eq_some_iff, Prod.exists]

/-- A text is read if the pattern takes all of it and its fields are those of an instant. -/
theorem read?_eq_some_iff :
    read? p s = some t ↔ ∃ f, run {} s p = some (f, []) ∧ f.instant? = some t := by
  unfold read?
  rw [Option.bind_eq_some_iff]
  constructor
  · intro h
    obtain ⟨⟨f, r⟩, hrun, h⟩ := h
    cases r with
    | nil => exact ⟨f, hrun, h⟩
    | cons c r => cases h
  · intro h
    obtain ⟨f, hrun, h⟩ := h
    exact ⟨(f, []), hrun, h⟩

/-- A clock starts with a digit, blanks aside. -/
theorem digit_of_clock (h : run f s (clock ++ p) = some x) :
    ∃ c r, skipBlank s = c :: r ∧ c.isDigit = true := by
  obtain ⟨g, r, hhour, -⟩ := run_cons_eq_some_iff.1 h
  obtain ⟨y, hy, -⟩ := Option.map_eq_some_iff.1 hhour
  exact head_of_number (by decide) hy

/-- No clock starts with a letter. -/
theorem not_clock_of_letter {c : Char} (hc : c.isAlpha = true) :
    run f (c :: s) (clock ++ p) ≠ some x := by
  intro h
  obtain ⟨d, r, hs, hd⟩ := digit_of_clock h
  rw [skipBlank_cons (not_isBlank_of_isAlpha hc)] at hs
  obtain ⟨rfl, -⟩ := List.cons.inj hs
  rw [not_isDigit_of_isAlpha hc] at hd
  cases hd

/-- What no item changes stays as it was. -/
theorem run_keeps {α : Type} {part : Fields → α}
    (hstep : ∀ i ∈ p, ∀ f s g r, step f s i = some (g, r) → part g = part f)
    (h : run f s p = some (g, r)) : part g = part f := by
  induction p generalizing f s with
  | nil =>
    obtain ⟨rfl, -⟩ := Prod.mk.inj (Option.some.inj h)
    rfl
  | cons i p ih =>
    obtain ⟨f', s', hi, h⟩ := run_cons_eq_some_iff.1 h
    rw [ih (fun j hj => hstep j (List.mem_cons_of_mem i hj)) h]
    exact hstep i List.mem_cons_self f s f' s' hi

/-- Only a fraction changes the fraction, and nothing the offset. -/
theorem step_keeps {i : Item} (h : step f s i = some (g, r)) :
    (i ≠ .fraction → g.fraction = f.fraction) ∧ g.offset = f.offset := by
  cases i with
  | blank =>
    obtain ⟨rfl, -⟩ := Prod.mk.inj (Option.some.inj h)
    exact ⟨fun _ => rfl, rfl⟩
  | fraction =>
    obtain ⟨y, -, hy⟩ := Option.map_eq_some_iff.1 h
    obtain ⟨rfl, -⟩ := Prod.mk.inj hy
    exact ⟨fun hi => absurd rfl hi, rfl⟩
  | _ =>
    obtain ⟨y, -, hy⟩ := Option.map_eq_some_iff.1 h
    obtain ⟨rfl, -⟩ := Prod.mk.inj hy
    exact ⟨fun _ => rfl, rfl⟩

/-- Without an item for it, a fraction is not touched. -/
theorem fraction_of_run (h : run f s p = some (g, r)) (hp : .fraction ∉ p) :
    g.fraction = f.fraction := by
  refine run_keeps ?_ h
  intro i hi f s g r hstep
  exact (step_keeps hstep).1 fun heq => hp (heq ▸ hi)

/-- No item reads an offset. -/
theorem offset_of_run (h : run f s p = some (g, r)) : g.offset = f.offset := by
  refine run_keeps ?_ h
  intro i _ f s g r hstep
  exact (step_keeps hstep).2

section

variable {r₁ r₂ r₃ : List Char} {b c : Nat}

/-- A date is its three numbers with dashes in between. -/
theorem run_date {y : Int} (hy : year s = some (y, '-' :: r₁))
    (hb : field 2 r₁ = some (b, '-' :: r₂)) (hc : field 2 r₂ = some (c, r₃)) :
    run f s date = some ({ f with year := y, month := b, day := c }, r₃) := by
  unfold date
  simp only [run, step, hy, hb, hc, literal, Option.map_some, Option.bind_some, if_true]

/-- A time of day is its three numbers with colons in between. -/
theorem run_clock {a : Nat} (ha : field 2 s = some (a, ':' :: r₁))
    (hb : field 2 r₁ = some (b, ':' :: r₂)) (hc : field 2 r₂ = some (c, r₃)) :
    run f s clock = some ({ f with hour := a, minute := b, second := c }, r₃) := by
  unfold clock
  simp only [run, step, ha, hb, hc, literal, Option.map_some, Option.bind_some, if_true]

end

end Pattern

/-! ## The Internet form and the forms without a zone -/

/-- A text in the Internet form has a date, a time of day and behind it a zone. -/
theorem Internet.fields?_eq_some {f : Fields} (h : Internet.fields? s = some f) :
    ∃ t u v n z, (∃ g, Pattern.run {} s Pattern.date = some (g, t)) ∧
      Internet.separator t = some u ∧ (∃ c r, u = c :: r ∧ c.isDigit = true) ∧
      (∀ f, ∃ g, Pattern.run f u Pattern.clock = some (g, v)) ∧
      optionalFraction v = some (n, z) ∧ Zone.internet z = some (f.offset, []) := by
  unfold Internet.fields? at h
  obtain ⟨⟨y, s₁⟩, hyear, h⟩ := Option.bind_eq_some_iff.1 h
  obtain ⟨s₂, hhyphen, h⟩ := Option.bind_eq_some_iff.1 h
  obtain ⟨⟨m, s₃⟩, hmonth, h⟩ := Option.bind_eq_some_iff.1 h
  obtain ⟨s₄, hhyphen', h⟩ := Option.bind_eq_some_iff.1 h
  obtain ⟨⟨d, t⟩, hday, h⟩ := Option.bind_eq_some_iff.1 h
  obtain ⟨u, hseparator, h⟩ := Option.bind_eq_some_iff.1 h
  obtain ⟨⟨hh, s₅⟩, hhour, h⟩ := Option.bind_eq_some_iff.1 h
  obtain ⟨s₆, hcolon, h⟩ := Option.bind_eq_some_iff.1 h
  obtain ⟨⟨mm, s₇⟩, hminute, h⟩ := Option.bind_eq_some_iff.1 h
  obtain ⟨s₈, hcolon', h⟩ := Option.bind_eq_some_iff.1 h
  obtain ⟨⟨ss, v⟩, hsecond, h⟩ := Option.bind_eq_some_iff.1 h
  obtain ⟨⟨n, z⟩, hfraction, h⟩ := Option.bind_eq_some_iff.1 h
  obtain ⟨⟨o, e⟩, hzone, h⟩ := Option.bind_eq_some_iff.1 h
  obtain rfl := literal_eq_some_iff.1 hhyphen
  obtain rfl := literal_eq_some_iff.1 hhyphen'
  obtain rfl := literal_eq_some_iff.1 hcolon
  obtain rfl := literal_eq_some_iff.1 hcolon'
  -- Where the widths are full, a pattern takes what the Internet form takes.
  have hdate : ∃ g, Pattern.run {} s Pattern.date = some (g, t) :=
    ⟨_, Pattern.run_date (Pattern.year_of_number hyear)
      (Pattern.field_of_number (by decide) hmonth) (Pattern.field_of_number (by decide) hday)⟩
  have hclock : ∀ f, ∃ g, Pattern.run f u Pattern.clock = some (g, v) := by
    intro f
    exact ⟨_, Pattern.run_clock (Pattern.field_of_number (by decide) hhour)
      (Pattern.field_of_number (by decide) hminute) (Pattern.field_of_number (by decide) hsecond)⟩
  refine ⟨t, u, v, n, z, hdate, hseparator, head_of_number (by decide) hhour, hclock,
    hfraction, ?_⟩
  cases e with
  | nil =>
    obtain rfl := Option.some.inj h
    exact hzone
  | cons c e => cases h

namespace Form

open Pattern

/-- What stands between date and clock in a form without a zone, and behind the clock. -/
def civil? : Form → Option (Item × List Item)
  | spaced => some (.blank, [])
  | joined => some (.literal 'T', [])
  | spacedFraction => some (.blank, [.fraction])
  | _ => none

variable {form : Form} {i : Item} {q : List Item} {t : Instant}

/-- A form without a zone is a date, a separator, a time of day and what is behind it. -/
theorem read?_of_civil? (h : form.civil? = some (i, q)) :
    form.read? s = Pattern.read? (Pattern.date ++ i :: (Pattern.clock ++ q)) s := by
  cases form with
  | spaced | joined | spacedFraction =>
    obtain ⟨rfl, rfl⟩ := Prod.mk.inj (Option.some.inj h)
    rfl
  | _ => cases h

/-- The separator is a blank or the letter. -/
theorem between_of_civil? (h : form.civil? = some (i, q)) : i = .blank ∨ i = .literal 'T' := by
  cases form with
  | spaced | joined | spacedFraction =>
    obtain ⟨rfl, -⟩ := Prod.mk.inj (Option.some.inj h)
    first | exact Or.inl rfl | exact Or.inr rfl
  | _ => cases h

/-- Behind it there is nothing or a fraction. -/
theorem behind_of_civil? (h : form.civil? = some (i, q)) : q = [] ∨ q = [.fraction] := by
  cases form with
  | spaced | joined | spacedFraction =>
    obtain ⟨-, rfl⟩ := Prod.mk.inj (Option.some.inj h)
    first | exact Or.inl rfl | exact Or.inr rfl
  | _ => cases h

/-- Between date and clock a form without a zone goes as far as the Internet form, if a clock
follows. -/
theorem eq_of_separator {f g : Fields} {u : List Char} {x : Fields × List Char}
    (hi : i = .blank ∨ i = .literal 'T') (hseparator : Internet.separator s = some u)
    (hu : ∃ c r, u = c :: r ∧ c.isDigit = true) (hstep : step f s i = some (g, r))
    (hclock : run g r (clock ++ q) = some x) : r = u := by
  rcases hi with rfl | rfl
  · obtain ⟨rfl, rfl⟩ := Prod.mk.inj (Option.some.inj hstep)
    unfold Internet.separator at hseparator
    split at hseparator
    · rw [skipBlank_cons (by decide)] at hclock
      exact absurd hclock (not_clock_of_letter (by decide))
    · rw [skipBlank_cons (by decide)] at hclock
      exact absurd hclock (not_clock_of_letter (by decide))
    · next r =>
      obtain rfl := Option.some.inj hseparator
      obtain ⟨c, r, rfl, hc⟩ := hu
      exact skipBlank_cons (not_isBlank_of_isDigit hc) r
    · cases hseparator
  · obtain ⟨-, rfl⟩ := step_literal_eq_some_iff.1 hstep
    exact Option.some.inj hseparator

/-- A text in the Internet form has a zone in the end, where a form without one leaves nothing. -/
theorem not_internet_of_civil? {f : Fields} (hform : form.civil? = some (i, q))
    (h : form.read? s = some t) : Internet.fields? s ≠ some f := by
  intro hinternet
  obtain ⟨s₁, s₂, s₃, n, z, ⟨g, hdate⟩, hseparator, ⟨c, r, hs₂, hc⟩, hclock, hfraction,
    hzone⟩ := Internet.fields?_eq_some hinternet
  have hz : z ≠ [] := by
    intro hnil
    rw [hnil] at hzone
    cases hzone
  rw [read?_of_civil? hform] at h
  obtain ⟨f', h, -⟩ := Pattern.read?_eq_some_iff.1 h
  obtain ⟨g₁, r₁, hdate', h⟩ := run_append_eq_some_iff.1 h
  obtain ⟨rfl, rfl⟩ := Prod.mk.inj (Option.some.inj (hdate'.symm.trans hdate))
  obtain ⟨g₂, r₂, hbetween, h⟩ := run_cons_eq_some_iff.1 h
  obtain rfl := eq_of_separator (between_of_civil? hform) hseparator ⟨c, r, hs₂, hc⟩ hbetween h
  obtain ⟨g₃, r₃, hclock', h⟩ := run_append_eq_some_iff.1 h
  obtain ⟨g₄, hclock⟩ := hclock g₂
  obtain ⟨rfl, rfl⟩ := Prod.mk.inj (Option.some.inj (hclock'.symm.trans hclock))
  -- Nothing is left behind the clock but a fraction.
  rcases behind_of_civil? hform with rfl | rfl
  · obtain ⟨-, rfl⟩ := Prod.mk.inj (Option.some.inj h)
    obtain ⟨-, rfl⟩ := Prod.mk.inj (Option.some.inj hfraction)
    exact hz rfl
  · obtain ⟨g₅, r₅, hstep, h⟩ := run_cons_eq_some_iff.1 h
    obtain ⟨-, rfl⟩ := Prod.mk.inj (Option.some.inj h)
    obtain ⟨⟨k, y⟩, hfraction', hy⟩ := Option.map_eq_some_iff.1 hstep
    obtain ⟨-, rfl⟩ := Prod.mk.inj hy
    rw [hfraction'] at hfraction
    obtain ⟨-, rfl⟩ := Prod.mk.inj (Option.some.inj hfraction)
    exact hz rfl

/-! ## The forms without a zone -/

/-- The letter between date and clock is no blank. -/
theorem not_blank_of_joined {p : List Item} {u : Instant} (hjoined : joined.read? s = some t) :
    Pattern.read? (Pattern.date ++ .blank :: (Pattern.clock ++ p)) s ≠ some u := by
  intro h
  rw [read?_of_civil? rfl] at hjoined
  obtain ⟨f, hjoined, -⟩ := Pattern.read?_eq_some_iff.1 hjoined
  obtain ⟨g, h, -⟩ := Pattern.read?_eq_some_iff.1 h
  obtain ⟨f₁, r₁, hdate, hjoined⟩ := run_append_eq_some_iff.1 hjoined
  obtain ⟨f₂, r₂, hletter, -⟩ := run_cons_eq_some_iff.1 hjoined
  obtain ⟨-, rfl⟩ := step_literal_eq_some_iff.1 hletter
  obtain ⟨g₁, r, hdate', h⟩ := run_append_eq_some_iff.1 h
  obtain ⟨rfl, rfl⟩ := Prod.mk.inj (Option.some.inj (hdate'.symm.trans hdate))
  obtain ⟨g₂, r, hblank, h⟩ := run_cons_eq_some_iff.1 h
  obtain ⟨-, rfl⟩ := Prod.mk.inj (Option.some.inj hblank)
  rw [skipBlank_cons (by decide)] at h
  exact not_clock_of_letter (by decide) h

/-- No fraction is a fraction of nothing. -/
theorem spacedFraction_of_spaced (h : spaced.read? s = some t) :
    spacedFraction.read? s = some t := by
  obtain ⟨f, hrun, ht⟩ := Pattern.read?_eq_some_iff.1 h
  have hzero : f.fraction = 0 := fraction_of_run hrun (by decide)
  refine Pattern.read?_eq_some_iff.2 ⟨f, ?_, ht⟩
  refine run_append_eq_some_iff.2 ⟨f, [], hrun, ?_⟩
  show some ({ f with fraction := 0 }, []) = some (f, ([] : List Char))
  rw [← hzero]

/-! ## All forms -/

/-- No text is a different time in each of the two forms. -/
def Agree (f g : Form) : Prop := ∀ s t u, f.read? s = some t → g.read? s = some u → t = u

theorem Agree.symm {f g : Form} (h : Agree f g) : Agree g f := by
  intro s t u ht hu
  exact (h s u t hu ht).symm

/-- A form agrees with itself. -/
theorem agree_self (f : Form) : Agree f f := by
  intro s t u ht hu
  exact Option.some.inj (ht.symm.trans hu)

/-- Forms agree if one of them reads dates with dashes only and the other none of these. -/
theorem agree_of_dated {f g : Form} (hf : ∀ s t, f.read? s = some t → Dated s)
    (hg : ∀ s t, g.read? s = some t → ¬Dated s) : Agree f g := by
  intro s t u ht hu
  exact absurd (hf s t ht) (hg s u hu)

/-- The Internet form starts with a date. -/
theorem dated_internet (s : List Char) (t : Instant) (h : internet.read? s = some t) :
    Dated s := by
  obtain ⟨f, hf, -⟩ := Option.bind_eq_some_iff.1 h
  exact dated_of_internet hf

/-- So do the forms without a zone. -/
theorem dated_of_civil? (hform : form.civil? = some (i, q)) (s : List Char) (t : Instant)
    (h : form.read? s = some t) : Dated s := by
  rw [read?_of_civil? hform] at h
  obtain ⟨f, hrun, -⟩ := Pattern.read?_eq_some_iff.1 h
  exact dated_of_run hrun

/-- The form of mails does not: it has the month by its name. -/
theorem not_dated_mail (s : List Char) (t : Instant) (h : mail.read? s = some t) : ¬Dated s := by
  obtain ⟨f, hf, -⟩ := Option.bind_eq_some_iff.1 h
  exact not_dated_of_mail hf

/-- Nor does the form of the command `date`. -/
theorem not_dated_dateCommand (s : List Char) (t : Instant) (h : dateCommand.read? s = some t) :
    ¬Dated s :=
  not_dated_of_dateCommand h

/-- The forms that start with names take no text with a date in numbers in front. -/
theorem agree_names_civil? (hform : form.civil? = some (i, q)) :
    Agree mail form ∧ Agree dateCommand form :=
  ⟨(agree_of_dated (dated_of_civil? hform) not_dated_mail).symm,
    (agree_of_dated (dated_of_civil? hform) not_dated_dateCommand).symm⟩

/-- Only the Internet form has a zone behind the time of day. -/
theorem agree_internet_civil? (hform : form.civil? = some (i, q)) : Agree internet form := by
  intro s t u ht hu
  obtain ⟨f, hf, -⟩ := Option.bind_eq_some_iff.1 ht
  exact absurd hf (not_internet_of_civil? hform hu)

/-- A mail has its comma or its day where the command `date` has a month. -/
theorem agree_mail_dateCommand : Agree mail dateCommand := by
  intro s t u ht hu
  obtain ⟨f, hf, -⟩ := Option.bind_eq_some_iff.1 ht
  exact absurd hf (not_mail_of_dateCommand hu)

/-- They have different separators. -/
theorem agree_spaced_joined : Agree spaced joined := by
  intro s t u ht hu
  exact absurd ht (not_blank_of_joined hu)

/-- With no fraction the one reads what the other does. -/
theorem agree_spaced_spacedFraction : Agree spaced spacedFraction := by
  intro s t u ht hu
  exact agree_self spacedFraction s t u (spacedFraction_of_spaced ht) hu

/-- Again the separators are different. -/
theorem agree_joined_spacedFraction : Agree joined spacedFraction := by
  intro s t u ht hu
  exact absurd hu (not_blank_of_joined ht)

theorem pairwise_agree : all.Pairwise Agree := by
  unfold all
  simp only [List.pairwise_cons, List.forall_mem_cons]
  refine ⟨⟨?_, ?_, ?_, ?_, ?_, List.forall_mem_nil _⟩, ⟨?_, ?_, ?_, ?_, List.forall_mem_nil _⟩,
    ⟨?_, ?_, ?_, List.forall_mem_nil _⟩, ⟨?_, ?_, List.forall_mem_nil _⟩,
    ⟨?_, List.forall_mem_nil _⟩, List.forall_mem_nil _, List.Pairwise.nil⟩
  · exact agree_of_dated dated_internet not_dated_mail
  · exact agree_of_dated dated_internet not_dated_dateCommand
  · exact agree_internet_civil? rfl
  · exact agree_internet_civil? rfl
  · exact agree_internet_civil? rfl
  · exact agree_mail_dateCommand
  · exact (agree_names_civil? rfl).1
  · exact (agree_names_civil? rfl).1
  · exact (agree_names_civil? rfl).1
  · exact (agree_names_civil? rfl).2
  · exact (agree_names_civil? rfl).2
  · exact (agree_names_civil? rfl).2
  · exact agree_spaced_joined
  · exact agree_spaced_spacedFraction
  · exact agree_joined_spacedFraction

theorem mem_all (f : Form) : f ∈ all := by
  cases f <;> decide

/-- **Any two forms agree** on the texts that both of them read. -/
theorem agree (f g : Form) : Agree f g := by
  have : Std.Symm Agree := ⟨fun _ _ h => h.symm⟩
  exact pairwise_agree.forall_of_forall (fun f _ => agree_self f) (mem_all f) (mem_all g)

/-- Which form a text is in is all that matters, not which is tried first. -/
theorem findSome?_eq_some_iff {order : List Form} :
    order.findSome? (read? s) = some t ↔ ∃ f ∈ order, f.read? s = some t := by
  constructor
  · exact List.exists_of_findSome?_eq_some
  · intro h
    obtain ⟨f, hf, ht⟩ := h
    have hsome : (order.findSome? (read? s)).isSome = true :=
      List.findSome?_isSome_iff.2 ⟨f, hf, by rw [ht]; rfl⟩
    obtain ⟨u, hu⟩ := Option.isSome_iff_exists.1 hsome
    obtain ⟨g, -, hg⟩ := List.exists_of_findSome?_eq_some hu
    rw [hu, agree g f s u t hg ht]

end Form

/-- What one form reads is what is read, whichever form is tried first. -/
theorem Timestamp.read?_of_form {form : Form} {t : Instant} (h : form.read? (trim s) = some t) :
    Timestamp.read? s = some t :=
  Form.findSome?_eq_some_iff.2 ⟨form, Form.mem_all form, h⟩

/-- A text that one form alone may take is read in that form. -/
theorem Timestamp.read?_of_only {form : Form}
    (h : ∀ g t, g.read? (trim s) = some t → g = form) :
    Timestamp.read? s = form.read? (trim s) := by
  refine Option.ext fun t => ?_
  constructor
  · intro hread
    obtain ⟨g, -, hg⟩ := Form.findSome?_eq_some_iff.1 hread
    exact h g t hg ▸ hg
  · exact Timestamp.read?_of_form

/-- Without a date in numbers in front, a text is in a form that starts with names. -/
theorem Form.mail_or_dateCommand {form : Form} {t : Instant} (hdated : ¬Dated s)
    (h : form.read? s = some t) : form = .mail ∨ form = .dateCommand := by
  cases form with
  | mail => exact Or.inl rfl
  | dateCommand => exact Or.inr rfl
  | internet => exact absurd (Form.dated_internet _ _ h) hdated
  | spaced | joined | spacedFraction => exact absurd (Form.dated_of_civil? rfl _ _ h) hdated

end Stratum.Time

namespace Stratum.Source

open Text Time

/-- A time that is read is the result. -/
theorem readTime_of_some {text : List Char} {t : Instant} (h : Timestamp.read? text = some t) :
    readTime text = .ok t := by
  unfold readTime
  rw [h]

/-- Otherwise the error has the text without the space around it. -/
theorem readTime_of_none {text : List Char} (h : Timestamp.read? text = none) :
    readTime text = .error (.badTimestamp (String.ofList (trim text))) := by
  unfold readTime
  rw [h]

theorem readTime_eq_ok_iff {text : List Char} {t : Instant} :
    readTime text = .ok t ↔ Timestamp.read? text = some t := by
  constructor
  · intro h
    unfold readTime at h
    split at h
    · next heq => rw [heq, Except.ok.inj h]
    · cases h
  · exact readTime_of_some

/-- The time that a text gives if the forms are tried in this order. -/
def readTimeIn (order : List Form) (text : List Char) : Except Failure Instant :=
  match order.findSome? (Form.read? (trim text)) with
  | some t => .ok t
  | none => .error (.badTimestamp (String.ofList (trim text)))

/-- **The order of the forms makes no difference**: two forms that both take a text give the same
instant, to the nanosecond, and so a time is read alike, or not at all, in every order of trying
them. -/
theorem readTime_any_order (text : List Char) :
    (∀ (f g : Form) (t u : Instant), f.read? (trim text) = some t →
      g.read? (trim text) = some u → t = u) ∧
    ∀ order : List Form, order.Perm Form.all → readTimeIn order text = readTime text := by
  constructor
  · intro f g t u ht hu
    exact Form.agree f g (trim text) t u ht hu
  · intro order hperm
    have hsame : order.findSome? (Form.read? (trim text)) =
        Form.all.findSome? (Form.read? (trim text)) := by
      apply Option.ext
      intro t
      rw [Form.findSome?_eq_some_iff, Form.findSome?_eq_some_iff]
      simp only [hperm.mem_iff]
    show readTimeIn order text = readTimeIn Form.all text
    unfold readTimeIn
    rw [hsame]

/-- A time that the last form takes as well as an earlier one, tried in the reverse order. -/
theorem readTime_any_order_spaced :
    Form.spaced.read? (trim " 2020-01-02 03:04:05\n".toList) = some ⟨1577934245, 0⟩ ∧
      Form.spacedFraction.read? (trim " 2020-01-02 03:04:05\n".toList) = some ⟨1577934245, 0⟩ ∧
      readTimeIn Form.all.reverse " 2020-01-02 03:04:05\n".toList = .ok ⟨1577934245, 0⟩ := by
  have hspaced : Form.spaced.read? (trim " 2020-01-02 03:04:05\n".toList) =
      some ⟨1577934245, 0⟩ := by
    decide +kernel
  refine ⟨hspaced, Form.spacedFraction_of_spaced hspaced, ?_⟩
  rw [(readTime_any_order _).2 _ (List.reverse_perm _)]
  unfold readTime
  rw [Timestamp.read?_of_form hspaced]

end Stratum.Source
