import Stratum.Proofs.Civil
import Stratum.Proofs.Forms
import Stratum.Proofs.Parts

/-!
# Times that the `date` command prints

The `date` command prints weekday, month, day and clock, the name of a zone and the year, with gaps
between them. The zone is a word like any other, and which one it is nobody asks: the time is UTC. All
other words say what they mean, and there is such a time or there is none.

> `DateLine.read?_text`: a printed line is read as what its words say, whatever the zone.
> `readTime_dateCommand`: when it is read, and as which instant.
-/

namespace Stratum.Time

open Text Text.Numeral Scan

/-- A number, and what it is written as. -/
structure Spelled (spells : Nat → List Char → Prop) where
  value : Nat
  text : List Char
  spelled : spells value text

/-- A gap between two words. -/
def Gap : Type := { g : List Char // IsGap g }

/-- A line that the `date` command may have printed, but for its zone. There need not be such a day,
nor such a time of day. Weekdays count from Monday and months from January, which are 0. -/
structure DateLine where
  weekday : Spelled (IsName weekdayNames)
  month : Spelled (IsName monthNames)
  day : Spelled IsNumber
  hour : Spelled IsNumber
  minute : Spelled IsNumber
  second : Spelled IsNumber
  year : Nat
  year_digits : year ≤ 9999
  afterWeekday : Gap
  afterMonth : Gap
  afterDay : Gap
  afterClock : Gap
  afterZone : Gap

/-- A text with a weekday and a gap in front is in the form of the `date` command, or in none. -/
theorem Timestamp.read?_of_weekday {s r : List Char} {b : Char}
    (h : Lettered (skipBlank (trim s)) (b :: r)) (hb : isBlank b = true) :
    Timestamp.read? s = Form.dateCommand.read? (trim s) := by
  obtain ⟨x, y, z, hs, hall⟩ := h
  have hletter : x.isAlpha = true := hall x List.mem_cons_self
  have hmail : ∀ f, Mail.fields? (trim s) ≠ some f := by
    intro f hf
    rcases comma_or_day_of_mail hf with ⟨r', x', y', z', hs', -⟩ | ⟨n, c, r', hday, -⟩
    · -- A comma is no blank.
      have htail := hs.symm.trans hs'
      simp only [List.cons.injEq] at htail
      obtain ⟨-, -, -, rfl, -⟩ := htail
      cases hb
    · obtain ⟨c', t, hdigit, hc'⟩ := head_of_number (by decide) hday
      obtain ⟨rfl, -⟩ := List.cons.inj (hs.symm.trans hdigit)
      rw [not_isDigit_of_isAlpha hletter] at hc'
      cases hc'
  refine Timestamp.read?_of_only fun form t hform => ?_
  rcases Form.mail_or_dateCommand (not_dated_of_letter hs hletter) hform with rfl | rfl
  · obtain ⟨f, hf, -⟩ := Option.bind_eq_some_iff.1 hform
    exact absurd hf (hmail f)
  · rfl

namespace DateLine

/-! ## As it is printed -/

def clockText (l : DateLine) : List Char :=
  l.hour.text ++ ':' :: (l.minute.text ++ ':' :: l.second.text)

/-- All that stands behind the weekday and its gap. -/
def tail (l : DateLine) (zone : List Char) : List Char :=
  l.month.text ++ (l.afterMonth.1 ++ (l.day.text ++ (l.afterDay.1 ++ (l.clockText ++
    (l.afterClock.1 ++ (zone ++ (l.afterZone.1 ++ padded 4 l.year)))))))

/-- The line with a zone in it. -/
def text (l : DateLine) (zone : List Char) : List Char :=
  l.weekday.text ++ (l.afterWeekday.1 ++ l.tail zone)

/-- The instant of a line: the civil time in UTC, if there is such a day and such a time of day, and the
weekday is that of the day; 1970-01-01 was a Thursday. A leap second is the last second of its minute
and a second of nanoseconds on top. -/
def Denotes (l : DateLine) (t : Instant) : Prop :=
  ∃ d day, Date.Counted d day ∧
    (d.year = l.year ∧ d.month = l.month.value + 1 ∧ d.day = l.day.value) ∧
    (l.hour.value < 24 ∧ l.minute.value < 60 ∧ l.second.value ≤ 60) ∧
    (l.weekday.value : Int) = (day + 3) % 7 ∧
    t = ⟨day * 86400 + l.hour.value * 3600 + l.minute.value * 60 + min l.second.value 59,
      if l.second.value = 60 then 1000000000 else 0⟩

/-! ## As it is cut into words -/

variable (l : DateLine) {zone : List Char}

/-- The time of day is one word. -/
theorem isWord_clockText : IsWord l.clockText := by
  refine isWord_append_cons (by decide) l.hour.spelled.isWord ?_
  exact isWord_append_cons (by decide) l.minute.spelled.isWord l.second.spelled.isWord

theorem isWord_year : IsWord (padded 4 l.year) := isWord_padded (by decide) l.year

/-- The line without its zone and with single spaces. -/
def plain : List Char :=
  l.weekday.text ++ ' ' :: (l.month.text ++ ' ' :: (l.day.text ++ ' ' :: (l.clockText ++
    ' ' :: padded 4 l.year)))

/-- **The zone is the word that is left out**, whatever it is. -/
theorem withoutZone?_text (hzone : IsWord zone) :
    Form.withoutZone? (l.text zone) = some l.plain := by
  have hweekday : IsWord l.weekday.text := l.weekday.spelled.isWord (by decide)
  have hmonth : IsWord l.month.text := l.month.spelled.isWord (by decide)
  have hwords : words (l.text zone) =
      [l.weekday.text, l.month.text, l.day.text, l.clockText, zone, padded 4 l.year] := by
    unfold text tail
    rw [words_append hweekday l.afterWeekday.2, words_append hmonth l.afterMonth.2,
      words_append l.day.spelled.isWord l.afterDay.2,
      words_append l.isWord_clockText l.afterClock.2, words_append hzone l.afterZone.2,
      words_of_isWord l.isWord_year]
  unfold Form.withoutZone?
  rw [hwords]
  simp [unwords, plain]

/-! ## As it is read -/

/-- What the words say. -/
def fields : Fields where
  year := l.year
  month := l.month.value + 1
  day := l.day.value
  hour := l.hour.value
  minute := l.minute.value
  second := l.second.value
  weekday := some l.weekday.value

/-- A year of four digits. -/
theorem year_bounds (l : DateLine) : 0 ≤ l.fields.year ∧ l.fields.year ≤ 9999 :=
  ⟨Int.natCast_nonneg _, Int.ofNat_le.2 l.year_digits⟩

/-- Two digits are enough for the day and for each part of the clock. -/
def Short : Prop :=
  l.day.value < 100 ∧ l.hour.value < 100 ∧ l.minute.value < 100 ∧ l.second.value < 100

/-- What is behind the names: the numbers, with a space for each gap. -/
def numbers : List Char :=
  l.day.text ++ ' ' :: (l.clockText ++ ' ' :: padded 4 l.year)

theorem noDigit_nil : NoDigit [] := fun c hc => absurd hc (Option.not_mem_none c)

theorem noDigit_space (s : List Char) : NoDigit (' ' :: s) := noDigit_cons (by decide) s

theorem noDigit_colon (s : List Char) : NoDigit (':' :: s) := noDigit_cons (by decide) s

variable {l} {f g : Fields} {s rest r : List Char}

/-- A number has no blanks before it. -/
theorem field_text (n : Spelled IsNumber) (rest : List Char) :
    Pattern.field 2 (n.text ++ rest) = number 1 2 (n.text ++ rest) := by
  unfold Pattern.field
  rw [n.spelled.isWord.skipBlank_append]

/-- The names are read in front, and the numbers are left. -/
theorem run_names (p : List Item) :
    Pattern.run {} l.plain (.weekday :: .blank :: .monthName :: .blank :: p) =
      Pattern.run { weekday := some l.weekday.value, month := l.month.value + 1 } l.numbers p := by
  have hmonth : IsWord l.month.text := l.month.spelled.isWord (by decide)
  have hspace : ∀ s, skipBlank (' ' :: s) = skipBlank s := fun _ => rfl
  unfold plain numbers
  simp only [Pattern.run, Pattern.step, l.weekday.spelled.weekday_append, Option.map_some,
    Option.bind_some, hspace, hmonth.skipBlank_append, l.month.spelled.month_append,
    l.day.spelled.isWord.skipBlank_append]

/-- A time of day starts with a digit, so only the blank in front is skipped. -/
theorem skipBlank_clockText (s : List Char) :
    skipBlank (' ' :: (l.clockText ++ s)) = l.clockText ++ s :=
  l.isWord_clockText.skipBlank_append s

/-- A time of day is three numbers with colons in between. -/
theorem clockText_append (s : List Char) :
    l.clockText ++ s = l.hour.text ++ ':' :: (l.minute.text ++ ':' :: (l.second.text ++ s)) := by
  simp [clockText]

/-- It is read if its numbers have two digits at most. -/
theorem run_clockText (hshort : l.Short) (hrest : NoDigit rest) :
    Pattern.run f (l.clockText ++ rest) Pattern.clock =
      some ({ f with hour := l.hour.value, minute := l.minute.value, second := l.second.value },
        rest) := by
  obtain ⟨-, hhour, hminute, hsecond⟩ := hshort
  have hread : ∀ {n : Spelled IsNumber} {rest : List Char}, n.value < 100 → NoDigit rest →
      Pattern.field 2 (n.text ++ rest) = some (n.value, rest) := by
    intro n rest hn hrest
    rw [field_text]
    exact n.spelled.number_append hn hrest
  rw [clockText_append]
  exact Pattern.run_clock (hread hhour (noDigit_colon _)) (hread hminute (noDigit_colon _))
    (hread hsecond hrest)

/-- The items that take a number of two digits. -/
theorem field_of_step {i : Item} (hi : i ∈ [.day, .hour, .minute, .second])
    (h : Pattern.step f s i = some (g, r)) : ∃ k, Pattern.field 2 s = some (k, r) := by
  simp only [List.mem_cons, List.not_mem_nil, or_false] at hi
  rcases hi with rfl | rfl | rfl | rfl
  all_goals
    obtain ⟨⟨k, r'⟩, hk, heq⟩ := Option.map_eq_some_iff.1 h
    obtain ⟨-, rfl⟩ := Prod.mk.inj heq
    exact ⟨k, hk⟩

/-- A number up to a colon is a short one. -/
theorem of_run_colon {i : Item} {p : List Item} {x : Fields × List Char} (n : Spelled IsNumber)
    (hi : i ∈ [.day, .hour, .minute, .second])
    (h : Pattern.run f (n.text ++ ':' :: rest) (i :: .literal ':' :: p) = some x) :
    n.value < 100 ∧ ∃ g, Pattern.run g rest p = some x := by
  obtain ⟨f₁, s₁, hnumber, hrun⟩ := Pattern.run_cons_eq_some_iff.1 h
  obtain ⟨f₂, s₂, hcolon, hrest⟩ := Pattern.run_cons_eq_some_iff.1 hrun
  obtain ⟨-, rfl⟩ := Pattern.step_literal_eq_some_iff.1 hcolon
  obtain ⟨k, hk⟩ := field_of_step hi hnumber
  rw [field_text] at hk
  obtain ⟨hshort, -, htail⟩ := n.spelled.of_number (noDigit_colon _) (noDigit_colon _) hk
  obtain ⟨-, rfl⟩ := List.cons.inj htail
  exact ⟨hshort, f₂, hrest⟩

/-- A number up to a space is a short one, unless what is left of it is taken for a number that goes
on to something else. -/
theorem of_number_space (n : Spelled IsNumber) {k : Nat}
    (h : number 1 2 (n.text ++ ' ' :: rest) = some (k, r))
    (hnext : ∀ c t, r = c :: t → c.isDigit = true →
      ∃ hi m r', number 1 hi r = some (m, r') ∧ NoDigit r' ∧ r' ≠ ' ' :: rest) :
    n.value < 100 ∧ r = ' ' :: rest := by
  have hno : NoDigit r := by
    intro c hc
    obtain ⟨t, rfl⟩ := List.head?_eq_some_iff.1 hc
    refine Bool.not_eq_true _ ▸ fun hdigit => ?_
    obtain ⟨hi, m, r', hm, hr', hne⟩ := hnext c t rfl hdigit
    obtain ⟨ds, htext, hds, -⟩ := number_eq_some_iff.1 h
    obtain ⟨ds', hrest, hds', -⟩ := number_eq_some_iff.1 hm
    rw [hrest, ← List.append_assoc] at htext
    have hall : ∀ c ∈ ds ++ ds', c.isDigit = true := List.forall_mem_append.2 ⟨hds, hds'⟩
    exact hne (digits_append_inj n.spelled.isDigit hall (noDigit_space _) hr' htext).2.symm
  obtain ⟨hshort, -, hr⟩ := n.spelled.of_number (noDigit_space _) hno h
  exact ⟨hshort, hr⟩

/-- A year without a sign is a number of up to four digits. -/
theorem year_of_isDigit {c : Char} (hc : c.isDigit = true) (t : List Char) :
    Pattern.year (c :: t) = (number 1 4 (c :: t)).map fun (n, r) => ((n : Int), r) := by
  unfold Pattern.year
  rw [skipBlank_cons (not_isBlank_of_isDigit hc)]
  -- No digit is a sign.
  split
  · next heq =>
    obtain ⟨rfl, -⟩ := List.cons.inj heq
    cases hc
  · next heq =>
    obtain ⟨rfl, -⟩ := List.cons.inj heq
    cases hc
  · rfl

/-- A clock that starts with digits goes on with a colon. -/
theorem number_of_clock {c : Char} {t : List Char} {p : List Item} {x : Fields × List Char}
    (hc : c.isDigit = true) (h : Pattern.run f (skipBlank (c :: t)) (Pattern.clock ++ p) = some x) :
    ∃ m r, number 1 2 (c :: t) = some (m, ':' :: r) := by
  have hskip : skipBlank (c :: t) = c :: t := skipBlank_cons (not_isBlank_of_isDigit hc) t
  rw [hskip] at h
  obtain ⟨f₁, s₁, hhour, hrun⟩ := Pattern.run_cons_eq_some_iff.1 h
  obtain ⟨f₂, s₂, hcolon, -⟩ := Pattern.run_cons_eq_some_iff.1 hrun
  obtain ⟨-, rfl⟩ := Pattern.step_literal_eq_some_iff.1 hcolon
  obtain ⟨m, hm⟩ := field_of_step (by decide) hhour
  unfold Pattern.field at hm
  rw [hskip] at hm
  exact ⟨m, s₂, hm⟩

/-- A year that starts with digits and ends the text is nothing else. -/
theorem number_of_year {c : Char} {t : List Char} (hc : c.isDigit = true)
    (h : Pattern.run f (c :: t) [.blank, .year] = some (g, [])) :
    ∃ m, number 1 4 (c :: t) = some (m, []) := by
  obtain ⟨f₁, s₁, hblank, hrun⟩ := Pattern.run_cons_eq_some_iff.1 h
  obtain ⟨-, rfl⟩ := Prod.mk.inj (Option.some.inj hblank)
  obtain ⟨f₂, s₂, hyear, hend⟩ := Pattern.run_cons_eq_some_iff.1 hrun
  obtain ⟨-, rfl⟩ := Prod.mk.inj (Option.some.inj hend)
  obtain ⟨⟨y, r⟩, hy, heq⟩ := Option.map_eq_some_iff.1 hyear
  obtain ⟨-, rfl⟩ := Prod.mk.inj heq
  rw [skipBlank_cons (not_isBlank_of_isDigit hc), year_of_isDigit hc] at hy
  obtain ⟨⟨m, r'⟩, hm, heq'⟩ := Option.map_eq_some_iff.1 hy
  obtain ⟨-, rfl⟩ := Prod.mk.inj heq'
  exact ⟨m, hm⟩

/-- What the pattern takes as a whole has short numbers only. -/
theorem short_of_run
    (h : Pattern.run f l.numbers ([.day, .blank] ++ Pattern.clock ++ [.blank, .year]) =
      some (g, [])) : l.Short := by
  -- The day, up to the space before the hour.
  obtain ⟨f₁, s₁, hday, hrun₁⟩ := Pattern.run_cons_eq_some_iff.1 h
  obtain ⟨f₂, s₂, hblank, hrun₂⟩ := Pattern.run_cons_eq_some_iff.1 hrun₁
  obtain ⟨-, rfl⟩ := Prod.mk.inj (Option.some.inj hblank)
  obtain ⟨k, hk⟩ := field_of_step (by decide) hday
  unfold numbers at hk
  rw [field_text] at hk
  obtain ⟨hdayShort, rfl⟩ := of_number_space l.day hk fun c t hs hc => by
    subst hs
    obtain ⟨m, r, hm⟩ := number_of_clock hc hrun₂
    exact ⟨2, m, _, hm, noDigit_colon r, by simp⟩
  -- The hour and the minute, each up to its colon.
  rw [skipBlank_clockText, clockText_append] at hrun₂
  obtain ⟨hhourShort, f₃, hrun₃⟩ := of_run_colon l.hour (by decide) hrun₂
  obtain ⟨hminuteShort, f₄, hrun₄⟩ := of_run_colon l.minute (by decide) hrun₃
  -- The second, up to the space before the year.
  obtain ⟨f₅, s₅, hsecond, hrun₅⟩ := Pattern.run_cons_eq_some_iff.1 hrun₄
  obtain ⟨m, hm⟩ := field_of_step (by decide) hsecond
  rw [field_text] at hm
  obtain ⟨hsecondShort, -⟩ := of_number_space l.second hm fun c t hs hc => by
    subst hs
    obtain ⟨n, hn⟩ := number_of_year hc hrun₅
    exact ⟨4, n, [], hn, noDigit_nil, by simp⟩
  exact ⟨hdayShort, hhourShort, hminuteShort, hsecondShort⟩

/-- **The numbers are read** if they are short enough. -/
theorem run_numbers (hshort : l.Short) :
    Pattern.run f l.numbers ([.day, .blank] ++ Pattern.clock ++ [.blank, .year]) =
      some ({ f with
        day := l.day.value
        hour := l.hour.value
        minute := l.minute.value
        second := l.second.value
        year := l.year }, []) := by
  have hyear : number 4 4 (padded 4 l.year) = some (l.year, []) := by
    have hdigits := number_padded (by decide) (Nat.lt_succ_of_le l.year_digits) (Nat.le_refl 4) []
    rw [List.append_nil] at hdigits
    exact hdigits
  have hday : Pattern.field 2 l.numbers =
      some (l.day.value, ' ' :: (l.clockText ++ ' ' :: padded 4 l.year)) := by
    unfold numbers
    rw [field_text]
    exact l.day.spelled.number_append hshort.1 (noDigit_space _)
  have hstep : Pattern.step f l.numbers .day = some ({ f with day := l.day.value },
      ' ' :: (l.clockText ++ ' ' :: padded 4 l.year)) := by
    show (Pattern.field 2 l.numbers).map _ = _
    rw [hday]
    rfl
  refine Pattern.run_cons_eq_some_iff.2 ⟨_, _, hstep, ?_⟩
  refine Pattern.run_cons_eq_some_iff.2 ⟨_, _, rfl, ?_⟩
  rw [skipBlank_clockText]
  refine Pattern.run_append_eq_some_iff.2 ⟨_, _, run_clockText hshort (noDigit_space _), ?_⟩
  refine Pattern.run_cons_eq_some_iff.2 ⟨_, _, rfl, ?_⟩
  refine Pattern.run_cons_eq_some_iff.2 ⟨_, [], ?_, rfl⟩
  show (Pattern.year (skipBlank (padded 4 l.year))).map _ = _
  rw [skipBlank_of_number (by decide) hyear, Pattern.year_of_number hyear]
  rfl

/-- The pattern makes of the words what they say. -/
theorem read?_plain (l : DateLine) : Pattern.read? Form.datePattern l.plain = l.fields.instant? := by
  have hfront : ∀ x, Pattern.run {} l.plain Form.datePattern = some x ↔
      Pattern.run { weekday := some l.weekday.value, month := l.month.value + 1 } l.numbers
        ([.day, .blank] ++ Pattern.clock ++ [.blank, .year]) = some x := by
    intro x
    rw [← run_names]
    rfl
  refine Option.ext fun t => ?_
  rw [Pattern.read?_eq_some_iff]
  constructor
  · intro h
    obtain ⟨f, hrun, ht⟩ := h
    have hnumbers := (hfront _).1 hrun
    rw [run_numbers (short_of_run hnumbers)] at hnumbers
    obtain ⟨rfl, -⟩ := Prod.mk.inj (Option.some.inj hnumbers)
    exact ht
  · intro ht
    obtain ⟨d, ⟨-, -, hday⟩, hclock, -⟩ := (Fields.instant?_eq_some_iff l.year_bounds).1 ht
    have hbound := Nat.le_trans d.day_exists.2 (daysInMonth_le _ _)
    obtain ⟨⟨hhour, hminute, hsecond⟩, -⟩ := Fields.clockExists_iff.1 hclock
    have hshort : l.Short := by
      unfold Short
      unfold fields at hday hhour hminute hsecond
      simp only at hday hhour hminute hsecond
      omega
    refine ⟨l.fields, (hfront _).2 ?_, ht⟩
    rw [run_numbers hshort]
    rfl

/-- A line starts with its weekday and ends with its year. -/
theorem trim_text (l : DateLine) (zone : List Char) : trim (l.text zone) = l.text zone := by
  have hweekday : IsWord l.weekday.text := l.weekday.spelled.isWord (by decide)
  have hsplit : l.text zone = l.weekday.text ++ ((l.afterWeekday.1 ++ (l.month.text ++
      (l.afterMonth.1 ++ (l.day.text ++ (l.afterDay.1 ++ (l.clockText ++ (l.afterClock.1 ++
        (zone ++ l.afterZone.1)))))))) ++ padded 4 l.year) := by
    simp [text, tail]
  rw [hsplit]
  exact trim_words hweekday l.isWord_year _

/-- The line starts with a name and a blank. -/
theorem lettered_text (l : DateLine) (zone : List Char) :
    ∃ b r, Lettered (skipBlank (l.text zone)) (b :: r) ∧ isBlank b = true := by
  obtain ⟨x, y, z, hletters, hall⟩ := l.weekday.spelled.letters (by decide)
  obtain ⟨hne, hgap⟩ := l.afterWeekday.2
  obtain ⟨b, g, hg⟩ := List.exists_cons_of_ne_nil hne
  have htext : l.text zone = x :: y :: z :: b :: (g ++ l.tail zone) := by
    unfold text
    rw [hletters, hg]
    rfl
  have hskip : skipBlank (l.text zone) = l.text zone := by
    unfold text
    exact IsWord.skipBlank_append (l.weekday.spelled.isWord (by decide)) _
  refine ⟨b, g ++ l.tail zone, ⟨x, y, z, hskip.trans htext, hletters ▸ hall⟩, ?_⟩
  exact hgap b (hg ▸ List.mem_cons_self)

/-- A printed line is read as what its words say, whatever the zone. -/
theorem read?_text (l : DateLine) (hzone : IsWord zone) :
    Timestamp.read? (l.text zone) = l.fields.instant? := by
  obtain ⟨b, r, hletters, hb⟩ := l.lettered_text zone
  rw [← l.trim_text zone] at hletters
  rw [Timestamp.read?_of_weekday hletters hb, l.trim_text]
  show (Form.withoutZone? _).bind _ = _
  rw [l.withoutZone?_text hzone, Option.bind_some, l.read?_plain]

/-! ## The instant -/

/-- The day of the week agrees if it is that of the day's number. -/
theorem weekdayAgrees_iff {d : Date} {day : Int} (hday : d.Counted day) :
    l.fields.weekdayAgrees d = true ↔ (l.weekday.value : Int) = (day + 3) % 7 := by
  show (l.weekday.value == d.weekday) = true ↔ _
  rw [beq_iff_eq, ← hday.weekday_eq]
  exact Int.ofNat_inj.symm

theorem clockExists_fields :
    l.fields.clockExists = true ↔
      l.hour.value < 24 ∧ l.minute.value < 60 ∧ l.second.value ≤ 60 := by
  rw [Fields.clockExists_iff]
  constructor
  · intro h
    exact h.1
  · intro h
    have hrest : 0 < secondNanos ∧ -daySeconds < 0 ∧ 0 < daySeconds := by decide
    exact ⟨h, hrest⟩

/-- A leap second counts as the last second of its minute. -/
theorem instant_eq (hsecond : l.second.value ≤ 60) (day : Int) :
    Instant.mk (day * daySeconds + l.fields.secondOfDay - l.fields.offset) l.fields.nanos =
      ⟨day * 86400 + l.hour.value * 3600 + l.minute.value * 60 + min l.second.value 59,
        if l.second.value = 60 then 1000000000 else 0⟩ := by
  have hsecs : day * daySeconds + l.fields.secondOfDay - l.fields.offset =
      day * 86400 + l.hour.value * 3600 + l.minute.value * 60 + min l.second.value 59 := by
    show day * 86400 + (l.hour.value * 3600 + l.minute.value * 60 +
      ((if l.second.value = 60 then 59 else l.second.value : Nat) : Int)) - 0 = _
    split <;> omega
  rw [hsecs]
  rfl

/-- **The fields are those of an instant** exactly if the line denotes it. -/
theorem instant?_eq_some_iff {t : Instant} : l.fields.instant? = some t ↔ l.Denotes t := by
  rw [Fields.instant?_eq_some_iff l.year_bounds]
  constructor
  · intro h
    obtain ⟨d, hdate, hclock, hweekday, rfl⟩ := h
    have hday : d.Counted d.dayNumber := Date.counted_iff.2 rfl
    have hclock := clockExists_fields.1 hclock
    exact ⟨d, d.dayNumber, hday, hdate, hclock, (weekdayAgrees_iff hday).1 hweekday,
      instant_eq hclock.2.2 d.dayNumber⟩
  · intro h
    obtain ⟨d, day, hday, hdate, hclock, hweekday, rfl⟩ := h
    refine ⟨d, hdate, clockExists_fields.2 hclock, (weekdayAgrees_iff hday).2 hweekday, ?_⟩
    rw [Date.counted_iff.1 hday, instant_eq hclock.2.2]

end DateLine

end Stratum.Time

namespace Stratum.Source

open Text Time

/-- **A line that the `date` command printed is read as what it says, and its zone makes no
difference.** It is read exactly if there is such a day in its month and its year, such a time of day,
and the weekday is that of the day; and then as that civil time in UTC. Any other line is refused by
its text. A line with another word for its zone is read as the same instant, or refused as well. -/
theorem readTime_dateCommand (l : DateLine) {zone : List Char} (hzone : IsWord zone) :
    (∀ t, readTime (l.text zone) = .ok t ↔ l.Denotes t) ∧
      ((∀ t, ¬l.Denotes t) →
        readTime (l.text zone) = .error (.badTimestamp (String.ofList (l.text zone)))) ∧
      ∀ zone', IsWord zone' →
        ∀ t, readTime (l.text zone') = .ok t ↔ readTime (l.text zone) = .ok t := by
  have hread : ∀ {zone}, IsWord zone → ∀ t, readTime (l.text zone) = .ok t ↔ l.Denotes t := by
    intro zone hzone t
    rw [readTime_eq_ok_iff, l.read?_text hzone, DateLine.instant?_eq_some_iff]
  refine ⟨hread hzone, ?_, ?_⟩
  · intro hnone
    have hrefused : Timestamp.read? (l.text zone) = none := by
      rw [l.read?_text hzone, Option.eq_none_iff_forall_ne_some]
      intro t ht
      exact hnone t (DateLine.instant?_eq_some_iff.1 ht)
    rw [readTime_of_none hrefused, l.trim_text]
  · intro zone' hzone' t
    rw [hread hzone', hread hzone]

/-- A leap second at the end of a leap day, in two zones. -/
theorem readTime_dateCommand_leapDay :
    readTime "Sat Feb 29  23:59:60 CET 2020".toList = .ok ⟨1583020799, 1000000000⟩ ∧
      readTime "Sat Feb 29  23:59:60 +01:00, 2020".toList = .ok ⟨1583020799, 1000000000⟩ := by
  let space : Gap := ⟨[' '], by decide⟩
  let line : DateLine := {
    weekday := ⟨5, "Sat".toList, by decide⟩
    month := ⟨1, "Feb".toList, by decide⟩
    day := ⟨29, ['2', '9'], Or.inl (by decide +kernel)⟩
    hour := ⟨23, ['2', '3'], Or.inl (by decide +kernel)⟩
    minute := ⟨59, ['5', '9'], Or.inl (by decide +kernel)⟩
    second := ⟨60, ['6', '0'], Or.inl (by decide +kernel)⟩
    year := 2020
    year_digits := by decide
    afterWeekday := space
    afterMonth := space
    afterDay := ⟨[' ', ' '], by decide⟩
    afterClock := space
    afterZone := space }
  have hdenotes : line.Denotes ⟨1583020799, 1000000000⟩ :=
    ⟨⟨2020, 2, 29, by decide, by decide⟩, 18321, Date.counted_iff.2 (by decide +kernel),
      ⟨rfl, rfl, rfl⟩, by decide, by decide, by decide⟩
  have hcet : "Sat Feb 29  23:59:60 CET 2020".toList = line.text "CET".toList := by
    decide +kernel
  have hother : "Sat Feb 29  23:59:60 +01:00, 2020".toList = line.text "+01:00,".toList := by
    decide +kernel
  obtain ⟨hread, -, hsame⟩ := readTime_dateCommand line (show IsWord "CET".toList by decide)
  have hfirst := (hread _).2 hdenotes
  rw [hcet, hother]
  exact ⟨hfirst, (hsame "+01:00,".toList (by decide) _).2 hfirst⟩

end Stratum.Source
