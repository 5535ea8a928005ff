import Stratum.Proofs.Digits
import Stratum.Time.Timestamp
import Mathlib.Data.List.DropRight

/-!
# What a time starts with

The form of a time shows at its start. Blanks and digits aside, the first character of a text with a
date in numbers is the hyphen behind its year, or the sign before it; it is a letter or a blank if
the text starts with a weekday or with the day of the month. And where weekdays come first, there is
a comma behind them in the mail form and nowhere else.

> `dated_of_run`, `dated_of_internet`: a date in numbers comes first.
> `not_dated_of_mail`, `not_dated_of_dateCommand`: no such date comes first.
> `not_mail_of_dateCommand`: no text is in the mail form and in that of the `date` command.
-/

namespace Stratum.Time

open Text Scan

variable {s r : List Char}

/-! ## Names -/

/-- Only letters have letters for their lower case. -/
theorem isAlpha_of_toLower {c : Char} (h : c.toLower.isAlpha = true) : c.isAlpha = true := by
  by_cases hupper : c.isUpper = true
  · exact Bool.or_eq_true_iff.2 (Or.inl hupper)
  · have hlower : c.toLower = c := by
      unfold Char.toLower
      exact dif_neg fun hc => hupper (decide_eq_true hc)
    rw [hlower] at h
    exact h

/-- Letters are in two ranges of ASCII. -/
theorem ranges_of_isAlpha {c : Char} (h : c.isAlpha = true) :
    (65 ≤ c.toNat ∧ c.toNat ≤ 90) ∨ (97 ≤ c.toNat ∧ c.toNat ≤ 122) := by
  rcases Bool.or_eq_true_iff.1 h with h | h
  · exact Or.inl (of_decide_eq_true h)
  · obtain ⟨low, high⟩ := Bool.and_eq_true_iff.1 h
    exact Or.inr ⟨of_decide_eq_true low, of_decide_eq_true high⟩

theorem not_isDigit_of_isAlpha {c : Char} (h : c.isAlpha = true) : c.isDigit = false := by
  have hranges := ranges_of_isAlpha h
  cases hd : c.isDigit with
  | false => rfl
  | true =>
    obtain ⟨low, high⟩ := Bool.and_eq_true_iff.1 hd
    have hlow : 48 ≤ c.toNat := of_decide_eq_true low
    have hhigh : c.toNat ≤ 57 := of_decide_eq_true high
    omega

/-- Three letters come first, and `r` behind them. -/
def Lettered (s r : List Char) : Prop :=
  ∃ a b c, s = a :: b :: c :: r ∧ ∀ x ∈ [a, b, c], x.isAlpha = true

/-- What starts with a name of three letters starts with letters and goes on as it does. -/
theorem lettered_of_name {names : List (List Char)} {i : Nat}
    (hnames : names.all (fun n => n.length == 3 && n.all Char.isAlpha) = true)
    (h : name names s = some (i, r)) : Lettered s r := by
  unfold name at h
  obtain ⟨j, hj, hr⟩ := Option.map_eq_some_iff.1 h
  obtain ⟨-, rfl⟩ := Prod.mk.inj hr
  have hmem : (s.take 3).map Char.toLower ∈ names := by
    rw [← List.isSome_idxOf?, hj]
    rfl
  obtain ⟨hlen, hall⟩ := Bool.and_eq_true_iff.1 (List.all_eq_true.1 hnames _ hmem)
  match s, beq_iff_eq.1 hlen, List.all_eq_true.1 hall with
  | a :: b :: c :: r, _, hall =>
    refine ⟨a, b, c, rfl, ?_⟩
    intro x hx
    exact isAlpha_of_toLower (hall _ (List.mem_map_of_mem hx))

/-- So does a day of the week. -/
theorem lettered_of_weekday {i : Nat} (h : weekday s = some (i, r)) : Lettered s r :=
  lettered_of_name (by decide) h

/-- And a month. -/
theorem lettered_of_month {i : Nat} (h : month s = some (i, r)) : Lettered s r := by
  unfold month at h
  obtain ⟨x, hx, hr⟩ := Option.map_eq_some_iff.1 h
  obtain ⟨-, rfl⟩ := Prod.mk.inj hr
  exact lettered_of_name (by decide) hx

/-! ## Single steps -/

/-- A character is read where it stands. -/
theorem literal_eq_some_iff {c : Char} : literal c s = some r ↔ s = c :: r := by
  cases s with
  | nil => simp [literal]
  | cons d s =>
    show (if d = c then some s else none) = some r ↔ _
    by_cases hd : d = c
    · rw [if_pos hd, hd, Option.some.injEq, List.cons.injEq]
      simp
    · rw [if_neg hd, List.cons.injEq]
      simp [hd]

namespace Pattern

/-- A pattern is read item by item. -/
theorem run_cons_eq_some_iff {f : Fields} {i : Item} {p : List Item} {x : Fields × List Char} :
    run f s (i :: p) = some x ↔ ∃ g r, step f s i = some (g, r) ∧ run g r p = some x := by
  show (step f s i).bind _ = some x ↔ _
  rw [Option.bind_eq_some_iff, Prod.exists]

/-- A literal changes no field. -/
theorem step_literal_eq_some_iff {f g : Fields} {c : Char} :
    step f s (.literal c) = some (g, r) ↔ g = f ∧ s = c :: r := by
  show (literal c s).map _ = some (g, r) ↔ _
  rw [← literal_eq_some_iff, Option.map_eq_some_iff]
  constructor
  · intro h
    obtain ⟨t, ht, h⟩ := h
    obtain ⟨hf, hr⟩ := Prod.mk.inj h
    exact ⟨hf.symm, hr ▸ ht⟩
  · intro h
    exact ⟨r, h.2, by rw [h.1]⟩

end Pattern

/-! ## The mark of a text -/

/-- The first character that is neither a blank at the start nor a digit. -/
def mark (s : List Char) : Option Char := ((skipBlank s).dropWhile Char.isDigit).head?

/-- Blanks in front do not matter for the mark. -/
theorem mark_skipBlank (s : List Char) : mark (skipBlank s) = mark s := by
  unfold mark skipBlank
  rw [List.dropWhile_idempotent]

/-- A character that is neither blank nor digit is the mark itself. -/
theorem mark_cons {c : Char} (hblank : isBlank c = false) (hdigit : c.isDigit = false)
    (s : List Char) : mark (c :: s) = some c := by
  unfold mark
  rw [skipBlank_cons hblank, List.dropWhile_cons_of_neg (by rw [hdigit]; decide)]
  rfl

/-- The mark behind a number is what stands behind it. -/
theorem mark_of_number {lo hi n : Nat} {c : Char} (hlo : 0 < lo) (hc : c.isDigit = false)
    (h : number lo hi s = some (n, c :: r)) : mark s = some c := by
  unfold mark
  rw [Scan.skipBlank_of_number hlo h]
  obtain ⟨ds, rfl, hds, -⟩ := number_eq_some_iff.1 h
  rw [List.dropWhile_append_of_pos hds, List.dropWhile_cons_of_neg (by rw [hc]; decide)]
  rfl

/-- The mark of a text that starts with a letter is the letter. -/
theorem mark_of_letter {c : Char} (hc : c.isAlpha = true) (s : List Char) :
    mark (c :: s) = some c :=
  mark_cons (not_isBlank_of_isAlpha hc) (not_isDigit_of_isAlpha hc) s

/-! ## Dates in front -/

/-- The mark is a hyphen or a sign, as it is behind a year. -/
def Dated (s : List Char) : Prop := mark s = some '-' ∨ mark s = some '+'

/-- The mark of a date is a dash or, behind a sign, the sign; with any other mark there is none. -/
theorem not_dated {p : Char → Bool} {c : Char} (h : mark s = some c) (hc : p c = true)
    (hp : p '-' = false ∧ p '+' = false) : ¬Dated s := by
  intro hdated
  unfold Dated at hdated
  rw [h, Option.some.injEq, Option.some.injEq] at hdated
  rcases hdated with rfl | rfl
  · rw [hp.1] at hc
    cases hc
  · rw [hp.2] at hc
    cases hc

/-- So no date starts with a letter. -/
theorem not_dated_of_letter {c : Char} {t : List Char} (hs : skipBlank s = c :: t)
    (hc : c.isAlpha = true) : ¬Dated s := by
  have hmark := mark_skipBlank s
  rw [hs, mark_of_letter hc] at hmark
  exact not_dated hmark.symm hc (by decide)

/-- Nor does one have a blank behind its first number of two digits. -/
theorem not_dated_of_blank {c : Char} {n : Nat} (hc : isBlank c = true)
    (h : number 1 2 (skipBlank s) = some (n, c :: r)) : ¬Dated s := by
  have hdigit : c.isDigit = false := by
    cases hd : c.isDigit with
    | false => rfl
    | true =>
      rw [not_isBlank_of_isDigit hd] at hc
      cases hc
  have hmark := mark_of_number (by decide) hdigit h
  rw [mark_skipBlank] at hmark
  exact not_dated hmark hc (by decide)

/-- A year with a dash behind it starts a date. -/
theorem dated_of_year {y : Int} (h : Pattern.year s = some (y, '-' :: r)) : Dated s := by
  unfold Pattern.year at h
  have hmark := mark_skipBlank s
  split at h
  · next hs =>
    rw [hs] at hmark
    exact Or.inl (hmark.symm.trans (mark_cons (by decide) (by decide) _))
  · next hs =>
    rw [hs] at hmark
    exact Or.inr (hmark.symm.trans (mark_cons (by decide) (by decide) _))
  · obtain ⟨x, hx, hr⟩ := Option.map_eq_some_iff.1 h
    obtain ⟨-, hr⟩ := Prod.mk.inj hr
    obtain ⟨n, rest⟩ := x
    obtain rfl : rest = '-' :: r := hr
    exact Or.inl (hmark.symm.trans (mark_of_number (by decide) (by decide) hx))

/-- What is read from a date on has a date in front. -/
theorem dated_of_run {f : Fields} {p : List Item} {x : Fields × List Char}
    (h : Pattern.run f s (Pattern.date ++ p) = some x) : Dated s := by
  obtain ⟨g, t, hyear, h⟩ := Pattern.run_cons_eq_some_iff.1 h
  obtain ⟨g', t', hhyphen, -⟩ := Pattern.run_cons_eq_some_iff.1 h
  obtain ⟨-, rfl⟩ := Pattern.step_literal_eq_some_iff.1 hhyphen
  obtain ⟨⟨y, t⟩, hy, ht⟩ := Option.map_eq_some_iff.1 hyear
  obtain ⟨-, rfl⟩ := Prod.mk.inj ht
  exact dated_of_year hy

/-- The Internet form starts with such a year. -/
theorem dated_of_internet {f : Fields} (h : Internet.fields? s = some f) : Dated s := by
  unfold Internet.fields? at h
  obtain ⟨⟨y, t⟩, hyear, h⟩ := Option.bind_eq_some_iff.1 h
  obtain ⟨t', hhyphen, -⟩ := Option.bind_eq_some_iff.1 h
  obtain rfl := literal_eq_some_iff.1 hhyphen
  exact Or.inl (mark_of_number (by decide) (by decide) hyear)

/-! ## The first word -/

/-- The first piece ends in front of the first separator. -/
theorem head?_splitOnP {α : Type} (p : α → Bool) (l : List α) :
    (l.splitOnP p).head? = some (l.takeWhile fun a => !p a) := by
  induction l with
  | nil => rfl
  | cons a l ih =>
    rw [List.splitOnP_cons_eq_if_modifyHead]
    by_cases ha : p a = true
    · rw [if_pos ha, List.takeWhile_cons_of_neg (by rw [ha]; decide)]
      rfl
    · rw [if_neg ha, List.head?_modifyHead, ih, List.takeWhile_cons_of_pos (by simpa using ha)]
      rfl

/-- The first word starts at the first character that is not blank and ends before the next that
is. -/
theorem words_eq_cons {w : List Char} {ws : List (List Char)} (h : words s = w :: ws) :
    w ≠ [] ∧ w = (skipBlank s).takeWhile fun c => !isBlank c := by
  unfold words at h
  induction s with
  | nil => cases h
  | cons c s ih =>
    rw [List.splitOnP_cons_eq_if_modifyHead] at h
    by_cases hc : isBlank c = true
    · rw [if_pos hc] at h
      have hskip : skipBlank (c :: s) = skipBlank s := List.dropWhile_cons_of_pos hc
      rw [hskip]
      exact ih h
    · have hword := head?_splitOnP isBlank s
      rw [if_neg hc] at h
      rw [skipBlank_cons (by simpa using hc), List.takeWhile_cons_of_pos (by simpa using hc)]
      cases hsplit : s.splitOnP isBlank with
      | nil =>
        rw [hsplit] at hword
        cases hword
      | cons u us =>
        rw [hsplit] at hword h
        obtain rfl := Option.some.inj hword
        obtain ⟨rfl, -⟩ := List.cons.inj h
        exact ⟨List.cons_ne_nil _ _, rfl⟩

/-- What is read of a text without its zone starts with the first word. -/
theorem withoutZone?_eq_some {u : List Char} (h : Form.withoutZone? s = some u) :
    ∃ w t, u = w ++ t ∧ w ≠ [] ∧ w = (skipBlank s).takeWhile fun c => !isBlank c := by
  unfold Form.withoutZone? at h
  split at h
  · next w m d c z y hwords =>
    obtain ⟨hne, hw⟩ := words_eq_cons hwords
    obtain rfl := Option.some.inj h
    exact ⟨w, _, rfl, hne, hw⟩
  · cases h

/-! ## Names in front -/

/-- The mail form starts with a weekday and a comma, or with the day of the month. -/
theorem comma_or_day_of_mail {f : Fields} (h : Mail.fields? s = some f) :
    (∃ r, Lettered (skipBlank s) (',' :: r)) ∨
      ∃ n c r, number 1 2 (skipBlank s) = some (n, c :: r) ∧ isBlank c = true := by
  unfold Mail.fields? at h
  obtain ⟨⟨w, t⟩, hweekday, h⟩ := Option.bind_eq_some_iff.1 h
  obtain ⟨⟨n, t'⟩, hday, h⟩ := Option.bind_eq_some_iff.1 h
  obtain ⟨t'', hblanks, -⟩ := Option.bind_eq_some_iff.1 h
  unfold Mail.optionalWeekday at hweekday
  split at hweekday
  · next hw =>
    obtain ⟨x, hcomma, -⟩ := Option.map_eq_some_iff.1 hweekday
    obtain rfl := literal_eq_some_iff.1 hcomma
    exact Or.inl ⟨x, lettered_of_weekday hw⟩
  · obtain ⟨-, rfl⟩ := Prod.mk.inj (Option.some.inj hweekday)
    have hskip : skipBlank (skipBlank s) = skipBlank s := List.dropWhile_idempotent _ _
    rw [hskip] at hday
    unfold blanks at hblanks
    split at hblanks
    · next c r =>
      by_cases hc : isBlank c = true
      · exact Or.inr ⟨n, c, r, hday, hc⟩
      · rw [if_neg hc] at hblanks
        cases hblanks
    · cases hblanks

/-- A mail starts with a day of the week, or with a day and a blank. -/
theorem not_dated_of_mail {f : Fields} (h : Mail.fields? s = some f) : ¬Dated s := by
  rcases comma_or_day_of_mail h with ⟨r, a, b, c, hs, hall⟩ | ⟨n, c, r, hday, hc⟩
  · exact not_dated_of_letter hs (hall a (List.mem_cons_self ..))
  · exact not_dated_of_blank hc hday

/-- The form of the `date` command starts with the names of weekday and month, blanks between
them. -/
theorem names_of_dateCommand {t : Instant} (h : Form.read? s .dateCommand = some t) :
    ∃ w v r q, w ≠ [] ∧ w = ((skipBlank s).takeWhile fun c => !isBlank c) ∧
      Lettered (w ++ v) r ∧ Lettered (skipBlank r) q := by
  obtain ⟨u, hu, h⟩ := Option.bind_eq_some_iff.1 h
  obtain ⟨w, v, rfl, hne, hw⟩ := withoutZone?_eq_some hu
  obtain ⟨x, h, -⟩ := Option.bind_eq_some_iff.1 h
  obtain ⟨g, r, hweekday, h⟩ := Pattern.run_cons_eq_some_iff.1 h
  obtain ⟨g', r', hblank, h⟩ := Pattern.run_cons_eq_some_iff.1 h
  obtain ⟨g'', q, hmonth, -⟩ := Pattern.run_cons_eq_some_iff.1 h
  obtain ⟨-, rfl⟩ := Prod.mk.inj (Option.some.inj hblank)
  obtain ⟨⟨i, y⟩, hday, hr⟩ := Option.map_eq_some_iff.1 hweekday
  obtain ⟨⟨m, z⟩, hname, hq⟩ := Option.map_eq_some_iff.1 hmonth
  obtain ⟨-, rfl⟩ := Prod.mk.inj hr
  obtain ⟨-, rfl⟩ := Prod.mk.inj hq
  exact ⟨w, v, _, _, hne, hw, lettered_of_weekday hday, lettered_of_month hname⟩

/-- The first letter of the weekday is the first character that is not blank. -/
theorem letter_of_dateCommand {t : Instant} (h : Form.read? s .dateCommand = some t) :
    ∃ c r, skipBlank s = c :: r ∧ c.isAlpha = true := by
  obtain ⟨w, v, r, q, hne, hw, ⟨a, b, c, hfront, hall⟩, -⟩ := names_of_dateCommand h
  cases hs : skipBlank s with
  | nil =>
    rw [hs] at hw
    exact absurd hw hne
  | cons d u =>
    refine ⟨d, u, rfl, ?_⟩
    cases hd : isBlank d with
    | true =>
      rw [hs, List.takeWhile_cons_of_neg (by rw [hd]; decide)] at hw
      exact absurd hw hne
    | false =>
      rw [hs, List.takeWhile_cons_of_pos (by rw [hd]; rfl)] at hw
      rw [hw] at hfront
      obtain ⟨rfl, -⟩ := List.cons.inj hfront
      exact hall d (List.mem_cons_self ..)

/-- The command `date` starts with a day of the week. -/
theorem not_dated_of_dateCommand {t : Instant} (h : Form.read? s .dateCommand = some t) :
    ¬Dated s := by
  obtain ⟨c, r, hs, hc⟩ := letter_of_dateCommand h
  exact not_dated_of_letter hs hc

/-- The mail form has a comma where the form of the `date` command goes on with the month. -/
theorem not_mail_of_dateCommand {t : Instant} {f : Fields}
    (h : Form.read? s .dateCommand = some t) : Mail.fields? s ≠ some f := by
  intro hmail
  rcases comma_or_day_of_mail hmail with ⟨r, a, b, c, hs, hall⟩ | ⟨n, d, r, hday, -⟩
  · obtain ⟨w, v, u, q, -, hw, ⟨a', b', c', hfront, -⟩, hmonth⟩ := names_of_dateCommand h
    have hword : ∀ x ∈ [a, b, c, ','], (!isBlank x) = true := by
      intro x hx
      rcases List.mem_append.1 (show x ∈ [a, b, c] ++ [','] from hx) with hx | hx
      · rw [not_isBlank_of_isAlpha (hall x hx)]
        rfl
      · rw [List.mem_singleton.1 hx]
        decide
    rw [hs, show a :: b :: c :: ',' :: r = [a, b, c, ','] ++ r from rfl,
      List.takeWhile_append_of_pos hword] at hw
    rw [hw] at hfront
    -- The comma is what comes behind the weekday.
    obtain ⟨-, hfront⟩ := List.cons.inj hfront
    obtain ⟨-, hfront⟩ := List.cons.inj hfront
    obtain ⟨-, rfl⟩ := List.cons.inj hfront
    obtain ⟨x, y, z, hcomma, hletters⟩ := hmonth
    obtain ⟨rfl, -⟩ := List.cons.inj ((skipBlank_cons (by decide) _).symm.trans hcomma)
    exact absurd (hletters ',' (List.mem_cons_self ..)) (by decide)
  · obtain ⟨c, u, hs, hc⟩ := letter_of_dateCommand h
    obtain ⟨x, y, hs', hx⟩ := head_of_number (by decide) hday
    obtain ⟨rfl, -⟩ := List.cons.inj (hs.symm.trans hs')
    rw [not_isDigit_of_isAlpha hc] at hx
    cases hx

end Stratum.Time
