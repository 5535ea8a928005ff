import Stratum.Proofs.Forms
import Stratum.Proofs.Parts

/-!
# Between date and time of day

A date and a time of day may have a letter between them or a space. Where a zone follows, and where
nothing does, this makes no difference. But of the forms without a zone only those with a space have
one with a fraction of a second: the same time with the letter is taken by none.

> `Internet.fields?_figures`: the Internet form, with any separator.
> `readTime_separators`: when the separator makes a difference.
-/

namespace Stratum

namespace Time

open Text Text.Numeral Scan

/-! ## As it is written -/

/-- Digits, just so many. -/
structure Figures (width : Nat) (s : List Char) : Prop where
  length_eq : s.length = width
  isDigit : ∀ c ∈ s, c.isDigit = true

instance (width : Nat) (s : List Char) : Decidable (Figures width s) :=
  decidable_of_iff (s.length = width ∧ s.all Char.isDigit = true)
    ⟨fun h => ⟨h.1, List.all_eq_true.1 h.2⟩, fun h => ⟨h.length_eq, List.all_eq_true.2 h.isDigit⟩⟩

/-- A date of the form `YYYY-MM-DD`, whether there is such a day or not. -/
inductive IsDate : List Char → Prop
  | figures {year month day : List Char} (hyear : Figures 4 year) (hmonth : Figures 2 month)
    (hday : Figures 2 day) : IsDate (year ++ '-' :: (month ++ '-' :: day))

/-- A time of day of the form `HH:MM:SS`, whether there is such a time or not. -/
inductive IsClock : List Char → Prop
  | figures {hour minute second : List Char} (hhour : Figures 2 hour) (hminute : Figures 2 minute)
    (hsecond : Figures 2 second) : IsClock (hour ++ ':' :: (minute ++ ':' :: second))

namespace Figures

variable {w : Nat} {s : List Char}

theorem number_append (h : Figures w s) (rest : List Char) :
    number w w (s ++ rest) = some (value s, rest) :=
  number_eq_some_iff.2 ⟨s, rfl, h.isDigit, h.length_eq.ge, h.length_eq.le, Or.inl h.length_eq, rfl⟩

theorem isWord (hw : 0 < w) (h : Figures w s) : IsWord s := by
  refine ⟨?_, fun c hc => not_isBlank_of_isDigit (h.isDigit c hc)⟩
  rintro rfl
  exact absurd h.length_eq hw.ne

theorem of_padded {n : Nat} (hw : 0 < w) (hn : n < 10 ^ w) : Figures w (padded w n) :=
  ⟨length_padded hw hn, fun _ => isDigit_of_mem_padded⟩

end Figures

theorem IsDate.isWord {date : List Char} (h : IsDate date) : IsWord date := by
  cases h with
  | figures hyear hmonth hday =>
    refine isWord_append_cons (by decide) (hyear.isWord (by decide)) ?_
    exact isWord_append_cons (by decide) (hmonth.isWord (by decide)) (hday.isWord (by decide))

theorem IsClock.isWord {clock : List Char} (h : IsClock clock) : IsWord clock := by
  cases h with
  | figures hhour hminute hsecond =>
    refine isWord_append_cons (by decide) (hhour.isWord (by decide)) ?_
    exact isWord_append_cons (by decide) (hminute.isWord (by decide)) (hsecond.isWord (by decide))

/-- A sign is taken off the front. -/
theorem Zone.sign_eq_some {minusSign : Bool} {s r : List Char} {sgn : Int}
    (h : Zone.sign minusSign s = some (sgn, r)) :
    ∃ c, s = c :: r ∧ (c.isDigit = false ∧ c ≠ '.') ∧ isBlank c = false := by
  unfold Zone.sign at h
  split at h
  next =>
    obtain ⟨-, rfl⟩ := Prod.mk.inj (Option.some.inj h)
    exact ⟨'+', rfl, by decide, by decide⟩
  next =>
    obtain ⟨-, rfl⟩ := Prod.mk.inj (Option.some.inj h)
    exact ⟨'-', rfl, by decide, by decide⟩
  next =>
    split at h
    · obtain ⟨-, rfl⟩ := Prod.mk.inj (Option.some.inj h)
      exact ⟨'\u2212', rfl, by decide, by decide⟩
    · cases h
  next => cases h

/-- A zone that is all that is left starts with a letter or a sign, and has no blanks in it. -/
theorem Zone.cases_of_internet {zone : List Char} {o : Int}
    (h : Zone.internet zone = some (o, [])) :
    (∃ c r, zone = c :: r ∧ c.isDigit = false ∧ c ≠ '.') ∧ ∀ c ∈ zone, isBlank c = false := by
  unfold Zone.internet at h
  split at h
  next r =>
    obtain ⟨-, rfl⟩ := Prod.mk.inj (Option.some.inj h)
    exact ⟨⟨'Z', [], rfl, by decide⟩, List.forall_mem_singleton.2 (by decide)⟩
  next r =>
    obtain ⟨-, rfl⟩ := Prod.mk.inj (Option.some.inj h)
    exact ⟨⟨'z', [], rfl, by decide⟩, List.forall_mem_singleton.2 (by decide)⟩
  next =>
    unfold Zone.offset at h
    obtain ⟨⟨sgn, s₁⟩, hsign, h⟩ := Option.bind_eq_some_iff.1 h
    obtain ⟨⟨hours, s₂⟩, hhours, h⟩ := Option.bind_eq_some_iff.1 h
    obtain ⟨s₃, hcolon, h⟩ := Option.bind_eq_some_iff.1 h
    obtain ⟨⟨minutes, s₄⟩, hminutes, h⟩ := Option.bind_eq_some_iff.1 h
    have hend : s₄ = [] := by
      dsimp only at h
      split at h
      · exact (Prod.mk.inj (Option.some.inj h)).2
      · cases h
    obtain ⟨c, rfl, hc, hcblank⟩ := Zone.sign_eq_some hsign
    obtain ⟨ds, rfl, hds, -⟩ := number_eq_some_iff.1 hhours
    obtain rfl := literal_eq_some_iff.1 hcolon
    obtain ⟨ds', rfl, hds', -⟩ := number_eq_some_iff.1 hminutes
    refine ⟨⟨c, _, rfl, hc⟩, ?_⟩
    rw [hend, List.append_nil, List.forall_mem_cons, List.forall_mem_append, List.forall_mem_cons]
    exact ⟨hcblank, fun d hd => not_isBlank_of_isDigit (hds d hd), by decide,
      fun d hd => not_isBlank_of_isDigit (hds' d hd)⟩

/-! ## As it is read -/

section

variable {date clock fraction zone : List Char} {nanos : Nat}

/-- The Internet form, with any of its separators. -/
theorem Internet.fields?_figures {year month day hour minute second rest : List Char}
    {separator : Char} {o : Int} (hyear : Figures 4 year) (hmonth : Figures 2 month)
    (hday : Figures 2 day) (hseparator : separator ∈ ['T', 't', ' ']) (hhour : Figures 2 hour)
    (hminute : Figures 2 minute) (hsecond : Figures 2 second)
    (hfraction : optionalFraction rest = some (nanos, zone))
    (hzone : Zone.internet zone = some (o, [])) :
    Internet.fields? (year ++ '-' :: (month ++ '-' :: (day ++ separator ::
        (hour ++ ':' :: (minute ++ ':' :: (second ++ rest)))))) =
      some {
        year := value year, month := value month, day := value day, hour := value hour,
        minute := value minute, second := value second, fraction := nanos, offset := o } := by
  have hseparated : ∀ r, Internet.separator (separator :: r) = some r := by
    intro r
    simp only [List.mem_cons, List.not_mem_nil, or_false] at hseparator
    rcases hseparator with rfl | rfl | rfl <;> rfl
  unfold Internet.fields?
  refine Option.bind_eq_some_iff.2 ⟨_, hyear.number_append _, ?_⟩
  refine Option.bind_eq_some_iff.2 ⟨_, literal_eq_some_iff.2 rfl, ?_⟩
  refine Option.bind_eq_some_iff.2 ⟨_, hmonth.number_append _, ?_⟩
  refine Option.bind_eq_some_iff.2 ⟨_, literal_eq_some_iff.2 rfl, ?_⟩
  refine Option.bind_eq_some_iff.2 ⟨_, hday.number_append _, ?_⟩
  refine Option.bind_eq_some_iff.2 ⟨_, hseparated _, ?_⟩
  refine Option.bind_eq_some_iff.2 ⟨_, hhour.number_append _, ?_⟩
  refine Option.bind_eq_some_iff.2 ⟨_, literal_eq_some_iff.2 rfl, ?_⟩
  refine Option.bind_eq_some_iff.2 ⟨_, hminute.number_append _, ?_⟩
  refine Option.bind_eq_some_iff.2 ⟨_, literal_eq_some_iff.2 rfl, ?_⟩
  refine Option.bind_eq_some_iff.2 ⟨_, hsecond.number_append _, ?_⟩
  refine Option.bind_eq_some_iff.2 ⟨_, hfraction, ?_⟩
  exact Option.bind_eq_some_iff.2 ⟨_, hzone, rfl⟩

/-- A pattern takes such a date, -/
theorem IsDate.run (h : IsDate date) :
    ∃ f : Fields, f.fraction = 0 ∧
      ∀ rest, Pattern.run {} (date ++ rest) Pattern.date = some (f, rest) := by
  cases h with
  | @figures year month day hyear hmonth hday =>
    refine ⟨{ year := value year, month := value month, day := value day }, rfl, fun rest => ?_⟩
    rw [List.append_assoc, List.cons_append, List.append_assoc, List.cons_append]
    exact Pattern.run_date (Pattern.year_of_number (hyear.number_append _))
      (Pattern.field_of_number (by decide) (hmonth.number_append _))
      (Pattern.field_of_number (by decide) (hday.number_append _))

/-- and such a time of day. -/
theorem IsClock.run (h : IsClock clock) (f : Fields) :
    ∃ g : Fields, g.fraction = f.fraction ∧
      ∀ rest, Pattern.run f (clock ++ rest) Pattern.clock = some (g, rest) := by
  cases h with
  | @figures hour minute second hhour hminute hsecond =>
    refine ⟨{ f with hour := value hour, minute := value minute, second := value second }, rfl,
      fun rest => ?_⟩
    rw [List.append_assoc, List.cons_append, List.append_assoc, List.cons_append]
    exact Pattern.run_clock (Pattern.field_of_number (by decide) (hhour.number_append _))
      (Pattern.field_of_number (by decide) (hminute.number_append _))
      (Pattern.field_of_number (by decide) (hsecond.number_append _))

/-- Between them it takes the letter or the space, and then has the same fields. -/
theorem exists_run (hdate : IsDate date) (hclock : IsClock clock) :
    ∃ f : Fields, f.fraction = 0 ∧ ∀ (rest : List Char) (p : List Item),
      Pattern.run {} (date ++ 'T' :: (clock ++ rest))
        (Pattern.date ++ .literal 'T' :: (Pattern.clock ++ p)) = Pattern.run f rest p ∧
      Pattern.run {} (date ++ ' ' :: (clock ++ rest))
        (Pattern.date ++ .blank :: (Pattern.clock ++ p)) = Pattern.run f rest p := by
  obtain ⟨f, hzero, hday⟩ := hdate.run
  obtain ⟨g, hsame, htime⟩ := hclock.run f
  refine ⟨g, hsame.trans hzero, fun rest p => ⟨?_, ?_⟩⟩
  · rw [Pattern.run_append, hday, Option.bind_some]
    show Pattern.run f (clock ++ rest) (Pattern.clock ++ p) = _
    rw [Pattern.run_append, htime, Option.bind_some]
  · rw [Pattern.run_append, hday, Option.bind_some]
    show Pattern.run f (skipBlank (clock ++ rest)) (Pattern.clock ++ p) = _
    rw [hclock.isWord.skipBlank_append, Pattern.run_append, htime, Option.bind_some]

theorem IsDate.dated (h : IsDate date) (rest : List Char) : Dated (date ++ rest) := by
  obtain ⟨f, -, hrun⟩ := h.run
  exact dated_of_run (p := []) (by rw [List.append_nil]; exact hrun rest)

/-- A letter is no blank, -/
theorem IsDate.not_run_blank (h : IsDate date) (rest : List Char) (p : List Item)
    (x : Fields × List Char) :
    Pattern.run {} (date ++ 'T' :: rest) (Pattern.date ++ .blank :: (Pattern.clock ++ p)) ≠ some x := by
  obtain ⟨f, -, hrun⟩ := h.run
  rw [Pattern.run_append, hrun, Option.bind_some]
  show Pattern.run f (skipBlank ('T' :: rest)) (Pattern.clock ++ p) ≠ some x
  rw [skipBlank_cons (by decide)]
  exact Pattern.not_clock_of_letter (by decide)

/-- and a space is no letter. -/
theorem IsDate.not_run_letter (h : IsDate date) (rest : List Char) (p : List Item)
    (x : Fields × List Char) :
    Pattern.run {} (date ++ ' ' :: rest) (Pattern.date ++ .literal 'T' :: p) ≠ some x := by
  obtain ⟨f, -, hrun⟩ := h.run
  rw [Pattern.run_append, hrun, Option.bind_some]
  intro hletter
  obtain ⟨g, r, hstep, -⟩ := Pattern.run_cons_eq_some_iff.1 hletter
  obtain ⟨-, heq⟩ := Pattern.step_literal_eq_some_iff.1 hstep
  exact absurd (List.cons.inj heq).1 (by decide)

/-- The text has nothing to trim. -/
theorem IsDate.trim_eq (hdate : IsDate date) (hclock : IsClock clock) (separator : Char)
    {rest : List Char} (hrest : ∀ c ∈ rest, isBlank c = false) :
    trim (date ++ separator :: (clock ++ rest)) = date ++ separator :: (clock ++ rest) :=
  trim_words hdate.isWord (isWord_append hclock.isWord hrest) [separator]

/-- Where nothing follows that could be a zone, no form takes the text that has one. -/
theorem Internet.fields?_of_no_zone {separator : Char} (hdate : IsDate date) (hclock : IsClock clock)
    (hfraction : IsFraction nanos fraction) (hseparator : separator = 'T' ∨ separator = ' ')
    (f : Fields) : Internet.fields? (date ++ separator :: (clock ++ fraction)) ≠ some f := by
  intro h
  obtain ⟨s₁, s₂, s₃, n, z, ⟨g, hday⟩, hseparated, -, htime, hdigits, hzone⟩ :=
    Internet.fields?_eq_some h
  obtain ⟨g', -, hrun⟩ := hdate.run
  rw [hrun] at hday
  obtain ⟨-, rfl⟩ := Prod.mk.inj (Option.some.inj hday)
  obtain rfl : clock ++ fraction = s₂ := by
    rcases hseparator with rfl | rfl
    · exact Option.some.inj hseparated
    · exact Option.some.inj hseparated
  obtain ⟨k, htime⟩ := htime {}
  obtain ⟨k', -, hrun⟩ := hclock.run {}
  rw [hrun] at htime
  obtain ⟨-, rfl⟩ := Prod.mk.inj (Option.some.inj htime)
  rw [hfraction.optionalFraction_eq_self] at hdigits
  obtain ⟨-, rfl⟩ := Prod.mk.inj (Option.some.inj hdigits)
  cases hzone

/-- So it is in a form without a zone, if it is in any. -/
theorem Form.of_text {separator : Char} (hdate : IsDate date) (hclock : IsClock clock)
    (hfraction : IsFraction nanos fraction) (hseparator : separator = 'T' ∨ separator = ' ')
    {form : Form} {t : Instant}
    (h : form.read? (date ++ separator :: (clock ++ fraction)) = some t) :
    form = .spaced ∨ form = .joined ∨ form = .spacedFraction := by
  have hdated := hdate.dated (separator :: (clock ++ fraction))
  cases form with
  | internet =>
    obtain ⟨f, hf, -⟩ := Option.bind_eq_some_iff.1 h
    exact absurd hf (Internet.fields?_of_no_zone hdate hclock hfraction hseparator f)
  | mail => exact absurd hdated (Form.not_dated_mail _ _ h)
  | dateCommand => exact absurd hdated (Form.not_dated_dateCommand _ _ h)
  | spaced => exact Or.inl rfl
  | joined => exact Or.inr (Or.inl rfl)
  | spacedFraction => exact Or.inr (Or.inr rfl)

/-- With the letter that is the form that takes no fraction, -/
theorem Timestamp.read?_letter (hdate : IsDate date) (hclock : IsClock clock)
    (hfraction : IsFraction nanos fraction) :
    Timestamp.read? (date ++ 'T' :: (clock ++ fraction)) =
      Form.joined.read? (date ++ 'T' :: (clock ++ fraction)) := by
  have htrim := hdate.trim_eq hclock 'T' hfraction.not_isBlank
  have honly : ∀ form t, Form.read? (trim (date ++ 'T' :: (clock ++ fraction))) form = some t →
      form = .joined := by
    intro form t hform
    rw [htrim] at hform
    have hblank := hdate.not_run_blank (clock ++ fraction)
    rcases Form.of_text hdate hclock hfraction (Or.inl rfl) hform with rfl | rfl | rfl
    · obtain ⟨g, hg, -⟩ := Pattern.read?_eq_some_iff.1 hform
      exact absurd hg (hblank [] _)
    · rfl
    · obtain ⟨g, hg, -⟩ := Pattern.read?_eq_some_iff.1 hform
      exact absurd hg (hblank [.fraction] _)
  rw [Timestamp.read?_of_only honly, htrim]

/-- and with the space the form that takes one, which takes what the form without one takes. -/
theorem Timestamp.read?_space (hdate : IsDate date) (hclock : IsClock clock)
    (hfraction : IsFraction nanos fraction) :
    Timestamp.read? (date ++ ' ' :: (clock ++ fraction)) =
      Form.spacedFraction.read? (date ++ ' ' :: (clock ++ fraction)) := by
  have htrim := hdate.trim_eq hclock ' ' hfraction.not_isBlank
  refine Option.ext fun t => ?_
  constructor
  · intro hread
    obtain ⟨form, -, hform⟩ := Form.findSome?_eq_some_iff.1 hread
    rw [htrim] at hform
    rcases Form.of_text hdate hclock hfraction (Or.inr rfl) hform with rfl | rfl | rfl
    · exact Form.spacedFraction_of_spaced hform
    · obtain ⟨g, hg, -⟩ := Pattern.read?_eq_some_iff.1 hform
      exact absurd hg (hdate.not_run_letter _ _ _)
    · exact hform
  · intro hform
    rw [← htrim] at hform
    exact Timestamp.read?_of_form hform

/-- **With the letter there is no fraction, with the space there may be one.** -/
theorem exists_read? (hdate : IsDate date) (hclock : IsClock clock) :
    ∃ f : Fields, f.fraction = 0 ∧ ∀ {nanos fraction}, IsFraction nanos fraction →
      Timestamp.read? (date ++ 'T' :: (clock ++ fraction)) =
        (if fraction.isEmpty then f.instant? else none) ∧
      Timestamp.read? (date ++ ' ' :: (clock ++ fraction)) =
        ({ f with fraction := nanos } : Fields).instant? := by
  obtain ⟨f, hzero, hrun⟩ := exists_run hdate hclock
  refine ⟨f, hzero, fun {nanos fraction} hfraction => ⟨?_, ?_⟩⟩
  · rw [Timestamp.read?_letter hdate hclock hfraction, Form.read?_of_civil? rfl]
    unfold Pattern.read?
    rw [(hrun fraction []).1]
    rfl
  · have hrest : Pattern.run f fraction [.fraction] = some ({ f with fraction := nanos }, []) := by
      refine Pattern.run_cons_eq_some_iff.2 ⟨_, [], ?_, rfl⟩
      show (optionalFraction fraction).map _ = _
      rw [hfraction.optionalFraction_eq_self]
      rfl
    rw [Timestamp.read?_space hdate hclock hfraction, Form.read?_of_civil? rfl]
    unfold Pattern.read?
    rw [(hrun fraction [.fraction]).2, hrest]
    rfl

/-- A fraction makes no time of what is none, and takes no time away. -/
theorem Fields.instant?_fraction_eq_none_iff {f : Fields} (hzero : f.fraction = 0)
    (hnanos : nanos < secondNanos) :
    ({ f with fraction := nanos } : Fields).instant? = none ↔ f.instant? = none := by
  have hclock : ({ f with fraction := nanos } : Fields).clockExists = f.clockExists := by
    have hpos : 0 < secondNanos := by decide
    simp [clockExists, hnanos, hzero, hpos]
  unfold instant?
  rw [Option.bind_eq_none_iff, Option.bind_eq_none_iff]
  refine forall_congr' fun d => imp_congr_right fun _ => ?_
  dsimp only
  rw [hclock, ite_eq_right_iff, ite_eq_right_iff]
  -- The conditions do not look at the nanoseconds.
  exact imp_congr_right fun _ => iff_of_false (Option.some_ne_none _) (Option.some_ne_none _)

/-- A text whose fields are those of the Internet form is read in no other. -/
theorem Timestamp.read?_of_internet {s : List Char} {f : Fields}
    (h : Internet.fields? (trim s) = some f) : Timestamp.read? s = f.instant? := by
  have hdated := dated_of_internet h
  have honly : ∀ form t, Form.read? (trim s) form = some t → form = .internet := by
    intro form t hform
    cases form with
    | internet => rfl
    | mail => exact absurd hdated (Form.not_dated_mail _ _ hform)
    | dateCommand => exact absurd hdated (Form.not_dated_dateCommand _ _ hform)
    | spaced | joined | spacedFraction => exact absurd h (Form.not_internet_of_civil? rfl hform)
  rw [Timestamp.read?_of_only honly]
  show (Internet.fields? (trim s)).bind Fields.instant? = _
  rw [h, Option.bind_some]

/-- With a zone the separator makes no difference. -/
theorem Timestamp.read?_zoned {o : Int} (hdate : IsDate date) (hclock : IsClock clock)
    (hfraction : IsFraction nanos fraction) (hzone : Zone.internet zone = some (o, [])) :
    Timestamp.read? (date ++ 'T' :: (clock ++ (fraction ++ zone))) =
      Timestamp.read? (date ++ ' ' :: (clock ++ (fraction ++ zone))) := by
  obtain ⟨⟨c, r, hfront, hc⟩, hblank⟩ := Zone.cases_of_internet hzone
  have htrim (separator : Char) := hdate.trim_eq hclock separator
    (List.forall_mem_append.2 ⟨hfraction.not_isBlank, hblank⟩)
  have hrest : optionalFraction (fraction ++ zone) = some (nanos, zone) := by
    refine hfraction.optionalFraction_eq ?_ ?_
    · rw [hfront]
      exact noDigit_cons hc.1 r
    · rw [hfront]
      exact fun heq => hc.2 (Option.some.inj heq)
  have hfields : ∃ f, ∀ separator ∈ ['T', 't', ' '],
      Internet.fields? (date ++ separator :: (clock ++ (fraction ++ zone))) = some f := by
    cases hdate with
    | @figures year month day hyear hmonth hday =>
      cases hclock with
      | @figures hour minute second hhour hminute hsecond =>
        refine ⟨{
          year := value year, month := value month, day := value day, hour := value hour,
          minute := value minute, second := value second, fraction := nanos, offset := o },
          fun separator hseparator => ?_⟩
        simp only [List.append_assoc, List.cons_append]
        exact Internet.fields?_figures hyear hmonth hday hseparator hhour hminute hsecond hrest hzone
  obtain ⟨f, hf⟩ := hfields
  rw [Timestamp.read?_of_internet ((congrArg _ (htrim 'T')).trans (hf 'T' (by decide))),
    Timestamp.read?_of_internet ((congrArg _ (htrim ' ')).trans (hf ' ' (by decide)))]

end

end Time

namespace Source

open Text Time

theorem toOption_readTime (text : List Char) :
    (readTime text).toOption = Timestamp.read? text := by
  unfold readTime
  cases Timestamp.read? text <;> rfl

/-- **When the separator between date and time of day makes a difference.** With the letter and with the
space such a text is the same time, or no time at all, exactly if there is no fraction of a second or
there is no such time of such a day: a time with a fraction is refused with the letter. With a zone
behind it the separator makes no difference. -/
theorem readTime_separators {date clock fraction : List Char} {nanos : Nat} (hdate : IsDate date)
    (hclock : IsClock clock) (hfraction : IsFraction nanos fraction) :
    ((readTime (date ++ 'T' :: (clock ++ fraction))).toOption =
        (readTime (date ++ ' ' :: (clock ++ fraction))).toOption ↔
      fraction = [] ∨ ∀ t, readTime (date ++ ' ' :: clock) ≠ .ok t) ∧
    (fraction ≠ [] → readTime (date ++ 'T' :: (clock ++ fraction)) =
      .error (.badTimestamp (String.ofList (date ++ 'T' :: (clock ++ fraction))))) ∧
    ∀ zone o, Zone.internet zone = some (o, []) →
      (readTime (date ++ 'T' :: (clock ++ (fraction ++ zone)))).toOption =
        (readTime (date ++ ' ' :: (clock ++ (fraction ++ zone)))).toOption := by
  obtain ⟨f, hzero, hread⟩ := exists_read? hdate hclock
  obtain ⟨hletter, hspace⟩ := hread hfraction
  refine ⟨?_, ?_, ?_⟩
  · have hwhole : Timestamp.read? (date ++ ' ' :: clock) = f.instant? := by
      have hnone := (hread IsFraction.none).2
      rw [List.append_nil] at hnone
      rw [hnone, ← hzero]
    have hexists := Fields.instant?_fraction_eq_none_iff hzero hfraction.lt
    rw [toOption_readTime, toOption_readTime, hletter, hspace]
    simp only [ne_eq, readTime_eq_ok_iff, hwhole]
    rw [← Option.eq_none_iff_forall_ne_some]
    cases hfraction with
    | none =>
      refine iff_of_true ?_ (Or.inl rfl)
      rw [← hzero]
      rfl
    | digits h =>
      rw [List.isEmpty_cons, if_neg Bool.false_ne_true, or_iff_right (List.cons_ne_nil _ _),
        ← hexists]
      exact eq_comm
  · intro hne
    rw [if_neg (mt List.isEmpty_iff.1 hne)] at hletter
    rw [readTime_of_none hletter, hdate.trim_eq hclock 'T' hfraction.not_isBlank]
  · intro zone o hzone
    rw [toOption_readTime, toOption_readTime, Timestamp.read?_zoned hdate hclock hfraction hzone]

/-- New Year's Day 2020, half a second after midnight. -/
theorem readTime_separators_newYear :
    (readTime "2020-01-01T00:00:00".toList).toOption =
        (readTime "2020-01-01 00:00:00".toList).toOption ∧
      (readTime "2020-01-01T00:00:00.5".toList).toOption ≠
        (readTime "2020-01-01 00:00:00.5".toList).toOption ∧
      (readTime "2020-01-01T00:00:00.5+01:00".toList).toOption =
        (readTime "2020-01-01 00:00:00.5+01:00".toList).toOption := by
  have hdate : IsDate "2020-01-01".toList :=
    @IsDate.figures "2020".toList "01".toList "01".toList (by decide) (by decide) (by decide)
  have hclock : IsClock "00:00:00".toList :=
    @IsClock.figures "00".toList "00".toList "00".toList (by decide) (by decide) (by decide)
  have hfraction : IsFraction 500000000 ".5".toList :=
    @IsFraction.digits ['5'] ⟨List.cons_ne_nil _ _, List.forall_mem_singleton.2 rfl⟩
  have hwhole : readTime "2020-01-01 00:00:00".toList = .ok ⟨1577836800, 0⟩ := by decide +kernel
  refine ⟨?_, ?_, ?_⟩
  · exact (readTime_separators hdate hclock .none).1.2 (Or.inl rfl)
  · intro heq
    rcases (readTime_separators hdate hclock hfraction).1.1 heq with hnil | hno
    · exact absurd hnil (by decide)
    · exact hno _ hwhole
  · exact (readTime_separators hdate hclock hfraction).2.2 "+01:00".toList 3600 (by decide +kernel)

/-- With the letter this time is refused, with the space it is read. -/
theorem readTime_letter_halfSecond :
    readTime "2020-01-01T00:00:00.5".toList = .error (.badTimestamp "2020-01-01T00:00:00.5") ∧
      readTime "2020-01-01 00:00:00.5".toList = .ok ⟨1577836800, 500000000⟩ := by
  constructor <;> decide +kernel

end Source

end Stratum
