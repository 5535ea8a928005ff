import Stratum.Proofs.Civil
import Stratum.Proofs.Separators

/-!
# Times with an offset from UTC

A civil time with its offset from UTC is written in the Internet form or in the mail form. Either way
it is read as the instant that it denotes: the seconds since 1970-01-01 that are counted in the zone,
less the offset, and the nanoseconds that the fraction says. The offset may lead into another day,
month or year. A weekday in the mail form adds nothing if it is right, and if it is wrong no form
takes the text.

> `Writes.read?_eq`: what a civil time is written as is read as what it denotes.
> `readTime_zoned`: so the zone in which an instant is written makes no difference.
-/

namespace Stratum.Time

open Text Text.Numeral Scan

/-- A text whose fields are those of the mail form is read in no other. -/
theorem Timestamp.read?_of_mail {s : List Char} {f : Fields} (h : Mail.fields? (trim s) = some f) :
    Timestamp.read? s = f.instant? := by
  have honly : ∀ form t, Form.read? (trim s) form = some t → form = .mail := by
    intro form t hform
    rcases Form.mail_or_dateCommand (not_dated_of_mail h) hform with rfl | rfl
    · rfl
    · exact absurd h (not_mail_of_dateCommand hform)
  rw [Timestamp.read?_of_only honly]
  show (Mail.fields? (trim s)).bind Fields.instant? = _
  rw [h, Option.bind_some]

/-- A day of a year with four digits, and a time of that day. -/
structure Civil where
  date : Date
  hour : Nat
  minute : Nat
  second : Nat
  year_digits : 0 ≤ date.year ∧ date.year ≤ 9999
  clock_exists : hour < 24 ∧ minute < 60 ∧ second < 60

namespace Civil

/-- The seconds since 1970-01-01 of a civil time at an offset from UTC. -/
def Denotes (c : Civil) (o : Offset) (secs : Int) : Prop :=
  ∃ day, c.date.Counted day ∧
    secs = day * 86400 + c.hour * 3600 + c.minute * 60 + c.second - o.seconds

/-- The weekday of the day, counted from Monday; 1970-01-01 was a Thursday. -/
def FallsOn (c : Civil) (w : Nat) : Prop := ∃ day, c.date.Counted day ∧ (w : Int) = (day + 3) % 7

/-! ## As it is written -/

def dateText (c : Civil) : List Char :=
  padded 4 c.date.year.toNat ++ '-' :: (padded 2 c.date.month ++ '-' :: padded 2 c.date.day)

def clockText (c : Civil) : List Char :=
  padded 2 c.hour ++ ':' :: (padded 2 c.minute ++ ':' :: padded 2 c.second)

/-- The Internet form, with a separator, what is written of a fraction, and a zone. -/
def internetText (c : Civil) (separator : Char) (fraction zone : List Char) : List Char :=
  c.dateText ++ separator :: (c.clockText ++ (fraction ++ zone))

/-- The mail form from the day of the month on. -/
def mailText (c : Civil) (day month zone : List Char) : List Char :=
  day ++ ' ' :: (month ++ ' ' :: (padded 4 c.date.year.toNat ++ ' ' :: (c.clockText ++ ' ' :: zone)))

/-- All that a civil time at an offset can be written as, with the nanoseconds of its fraction. -/
inductive Writes (c : Civil) (o : Offset) : Nat → List Char → Prop
  | internet {separator : Char} {nanos : Nat} {fraction zone : List Char}
    (hseparator : separator ∈ ['T', 't', ' ']) (hfraction : FractionText nanos fraction)
    (hzone : zone = o.text true ∨ (o.seconds = 0 ∧ zone = ['Z'])) :
    Writes c o nanos (c.internetText separator fraction zone)
  | mail {day month : List Char} (hday : IsNumber c.date.day day)
    (hmonth : IsName monthNames (c.date.month - 1) month) :
    Writes c o 0 (c.mailText day month (o.text false))
  | mailWeekday {w : Nat} {weekday day month : List Char} (hweekday : IsName weekdayNames w weekday)
    (hfalls : c.FallsOn w) (hday : IsNumber c.date.day day)
    (hmonth : IsName monthNames (c.date.month - 1) month) :
    Writes c o 0 (weekday ++ ',' :: ' ' :: c.mailText day month (o.text false))

/-! ## As it is read -/

variable {c : Civil} {o : Offset}

/-- What the texts of a civil time say, whatever their form. -/
def fields (c : Civil) (o : Offset) : Fields where
  year := c.date.year
  month := c.date.month
  day := c.date.day
  hour := c.hour
  minute := c.minute
  second := c.second
  offset := o.seconds

theorem cast_year (c : Civil) : (c.date.year.toNat : Int) = c.date.year := by
  have hyear := c.year_digits
  omega

theorem day_lt (c : Civil) : c.date.day < 32 :=
  Nat.lt_succ_of_le (Nat.le_trans c.date.day_exists.2 (daysInMonth_le _ _))

/-- A zone of the Internet form is read to its end. -/
theorem internet_zone {zone : List Char} (h : zone = o.text true ∨ (o.seconds = 0 ∧ zone = ['Z'])) :
    Zone.internet zone = some (o.seconds, []) := by
  rcases h with rfl | ⟨hzero, rfl⟩
  · have hoffset := o.offset_append true []
    rw [List.append_nil] at hoffset
    unfold Zone.internet Offset.text at *
    -- A sign is no letter.
    cases hwest : o.west <;> rw [hwest] at hoffset <;> exact hoffset
  · rw [hzero]
    rfl

/-- **The Internet form is read**, with each of its separators, fractions and zones. -/
theorem fields?_internetText {separator : Char} {nanos : Nat} {fraction zone : List Char}
    (hseparator : separator ∈ ['T', 't', ' ']) (hfraction : FractionText nanos fraction)
    (hzone : zone = o.text true ∨ (o.seconds = 0 ∧ zone = ['Z'])) :
    Internet.fields? (c.internetText separator fraction zone) =
      some { c.fields o with fraction := nanos } := by
  obtain ⟨hhour, hminute, hsecond⟩ := c.clock_exists
  have hyear := c.year_digits
  have hmonth := c.date.month_exists.2
  have hday := c.day_lt
  obtain ⟨⟨z, r, hz, hstart⟩, -⟩ := Zone.cases_of_internet (internet_zone hzone)
  have hrest : optionalFraction (fraction ++ zone) = some (nanos, zone) := by
    rw [hz]
    exact optionalFraction_append hfraction hstart
  have htwo {n : Nat} (hn : n < 100) : Figures 2 (padded 2 n) := .of_padded (by decide) hn
  unfold internetText dateText clockText
  simp only [List.append_assoc, List.cons_append]
  refine (Internet.fields?_figures (.of_padded (by decide) (by omega)) (htwo (by omega))
    (htwo (by omega)) hseparator (htwo (by omega)) (htwo (by omega)) (htwo (by omega)) hrest
    (internet_zone hzone)).trans ?_
  simp only [value_padded, c.cast_year]
  rfl

/-- One space is skipped before a word. -/
theorem blanks_append {w : List Char} (hw : IsWord w) (rest : List Char) :
    blanks (' ' :: (w ++ rest)) = some (w ++ rest) := by
  show some (skipBlank (w ++ rest)) = _
  rw [hw.skipBlank_append]

/-- The year of a mail has four digits. -/
theorem longNumber_year (c : Civil) (rest : List Char) :
    longNumber 2 (padded 4 c.date.year.toNat ++ ' ' :: rest) =
      some (c.date.year.toNat, ' ' :: rest) :=
  longNumber_padded (by decide) (noDigit_cons (by decide) rest)

/-- A year with four digits is meant as it is written. -/
theorem fullYear_year (c : Civil) (rest : List Char) :
    Mail.fullYear ((padded 4 c.date.year.toNat ++ rest).length - rest.length) c.date.year.toNat =
      c.date.year.toNat := by
  have hyear := c.year_digits
  have hlen : (padded 4 c.date.year.toNat).length = 4 := length_padded (by decide) (by omega)
  rw [List.length_append, hlen, Nat.add_sub_cancel]
  rfl

/-- The zone of a mail is an offset without a colon. -/
theorem mail_zone (o : Offset) : Zone.mail (o.text false) = some (o.seconds, []) := by
  have hoffset := o.offset_append false []
  rw [List.append_nil] at hoffset
  unfold Zone.mail Offset.text at *
  -- A sign is no letter.
  cases hwest : o.west <;> rw [hwest] at hoffset <;> exact hoffset

theorem skipComments_nil : Mail.skipComments [] = [] := by
  unfold Mail.skipComments
  rfl

/-- Seconds are read where a colon stands in front of them. -/
theorem optionalSecond_append {n : Nat} (hn : n < 60) (rest : List Char) :
    Mail.optionalSecond (':' :: (padded 2 n ++ rest)) = some (n, rest) :=
  number_two hn rest

/-- What the mail form says from the day of the month on. -/
theorem fields?_mailText {s r : List Char} {weekday : Option Nat} {day month : List Char}
    (hfront : Mail.optionalWeekday (skipBlank s) = some (weekday, r))
    (hr : skipBlank r = c.mailText day month (o.text false)) (hday : IsNumber c.date.day day)
    (hmonth : IsName monthNames (c.date.month - 1) month) :
    Mail.fields? s = some { c.fields o with weekday } := by
  obtain ⟨hhour, hminute, hsecond⟩ := c.clock_exists
  have hbound := c.day_lt
  have hplace : c.date.month - 1 + 1 = c.date.month := Nat.sub_add_cancel c.date.month_exists.1
  have hcolon : ∀ t, skipBlank (':' :: t) = ':' :: t := skipBlank_cons (by decide)
  have hword : IsWord (padded 2 c.minute) := isWord_padded (by decide) c.minute
  unfold Mail.fields?
  refine Option.bind_eq_some_iff.2 ⟨_, hfront, ?_⟩
  simp only [hr, mailText, clockText, List.append_assoc, List.cons_append]
  refine Option.bind_eq_some_iff.2 ⟨_, hday.number_append (by omega) (noDigit_cons rfl _), ?_⟩
  refine Option.bind_eq_some_iff.2 ⟨_, blanks_append (hmonth.isWord (by decide)) _, ?_⟩
  refine Option.bind_eq_some_iff.2 ⟨_, hmonth.month_append _, ?_⟩
  refine Option.bind_eq_some_iff.2 ⟨_, blanks_append (isWord_padded (by decide) _) _, ?_⟩
  refine Option.bind_eq_some_iff.2 ⟨_, c.longNumber_year _, ?_⟩
  refine Option.bind_eq_some_iff.2 ⟨_, blanks_append (isWord_padded (by decide) _) _, ?_⟩
  refine Option.bind_eq_some_iff.2 ⟨_, number_two (by omega) _, ?_⟩
  simp only [hcolon]
  refine Option.bind_eq_some_iff.2 ⟨_, literal_eq_some_iff.2 rfl, ?_⟩
  simp only [hword.skipBlank_append]
  refine Option.bind_eq_some_iff.2 ⟨_, number_two hminute _, ?_⟩
  refine Option.bind_eq_some_iff.2 ⟨_, optionalSecond_append hsecond _, ?_⟩
  refine Option.bind_eq_some_iff.2 ⟨o.text false, ?_, ?_⟩
  · rw [← List.append_nil (o.text false)]
    exact blanks_append (o.isWord_text false) []
  refine Option.bind_eq_some_iff.2 ⟨_, mail_zone o, ?_⟩
  simp only [skipComments_nil, c.fullYear_year, c.cast_year, hplace]
  rfl

/-! ## The instant -/

theorem exists_denotes (c : Civil) (o : Offset) : ∃ secs, c.Denotes o secs :=
  ⟨_, c.date.dayNumber, Date.counted_iff.2 rfl, rfl⟩

/-- A time with an offset is one instant. -/
theorem Denotes.unique {secs secs' : Int} (h : c.Denotes o secs) (h' : c.Denotes o secs') :
    secs = secs' := by
  obtain ⟨day, hday, rfl⟩ := h
  obtain ⟨day', hday', rfl⟩ := h'
  rw [← Date.counted_iff.1 hday, Date.counted_iff.1 hday']

/-- The day of the week is that of the date. -/
theorem fallsOn_iff {w : Nat} : c.FallsOn w ↔ w = c.date.weekday := by
  have hcounted : c.date.Counted c.date.dayNumber := Date.counted_iff.2 rfl
  constructor
  · intro h
    obtain ⟨day, hday, hw⟩ := h
    have hweekday := hday.weekday_eq
    omega
  · intro h
    exact ⟨c.date.dayNumber, hcounted, h ▸ hcounted.weekday_eq⟩

/-- The fields of a text denote the instant if the weekday is right or left out. -/
theorem instant?_eq {secs : Int} (h : c.Denotes o secs) {nanos : Nat} (hnanos : nanos < secondNanos)
    {weekday : Option Nat} (hweekday : ∀ w ∈ weekday, c.FallsOn w) :
    ({ c.fields o with fraction := nanos, weekday } : Fields).instant? = some ⟨secs, nanos⟩ := by
  obtain ⟨hhour, hminute, hsecond⟩ := c.clock_exists
  obtain ⟨hlow, hhigh⟩ := o.seconds_bounds
  obtain ⟨day, hday, rfl⟩ := h
  refine (Fields.instant?_eq_some_iff c.year_digits).2 ⟨c.date, ⟨rfl, rfl, rfl⟩, ?_, ?_, ?_⟩
  · exact Fields.clockExists_iff.2
      ⟨⟨hhour, hminute, by show c.second ≤ 60; omega⟩, hnanos, hlow, hhigh⟩
  · show weekday.all (· == c.date.weekday) = true
    cases weekday with
    | none => rfl
    | some w => exact beq_iff_eq.2 (fallsOn_iff.1 (hweekday w rfl))
  · have hne : c.second ≠ 60 := by omega
    have hsecs : c.date.dayNumber * daySeconds + (c.hour * 3600 + c.minute * 60 +
        ((if c.second = 60 then 59 else c.second : Nat) : Int)) - o.seconds =
        day * 86400 + c.hour * 3600 + c.minute * 60 + c.second - o.seconds := by
      rw [if_neg hne, Date.counted_iff.1 hday]
      unfold daySeconds
      omega
    have hfraction : (if c.second = 60 then secondNanos else 0) + nanos = nanos := by
      rw [if_neg hne, Nat.zero_add]
    exact (Instant.mk.injEq ..).mpr ⟨hsecs.symm, hfraction.symm⟩

/-- A wrong weekday denotes no instant. -/
theorem instant?_of_wrong {w : Nat} (h : ¬c.FallsOn w) :
    ({ c.fields o with weekday := some w } : Fields).instant? = none := by
  refine Option.eq_none_iff_forall_ne_some.2 fun t ht => ?_
  obtain ⟨d, ⟨hyear, hmonth, hday⟩, -, hweekday, -⟩ :=
    (Fields.instant?_eq_some_iff c.year_digits).1 ht
  have hsame : d = c.date := by
    have hd := Date.of?_eq_some_iff.2 ⟨hyear, hmonth, hday⟩
    have hc : Date.of? c.date.year c.date.month c.date.day = some c.date :=
      Date.of?_eq_some_iff.2 ⟨rfl, rfl, rfl⟩
    exact Option.some.inj (hd.symm.trans hc)
  have hright : w = d.weekday := beq_iff_eq.1 hweekday
  exact h (fallsOn_iff.2 (hsame ▸ hright))

/-! ## Whole texts -/

/-- Nothing is trimmed: there is a digit in front and a word behind. -/
theorem trim_internetText {fraction zone : List Char} (separator : Char) (hzone : IsWord zone) :
    trim (c.internetText separator fraction zone) = c.internetText separator fraction zone := by
  have hsplit : c.internetText separator fraction zone = padded 4 c.date.year.toNat ++
      (('-' :: (padded 2 c.date.month ++ '-' :: padded 2 c.date.day) ++
        separator :: (c.clockText ++ fraction)) ++ zone) := by
    simp [internetText, dateText]
  rw [hsplit]
  exact trim_words (isWord_padded (by decide) _) hzone _

/-- A mail is its day and its zone with something in between. -/
theorem mailText_eq (c : Civil) (day month zone : List Char) :
    ∃ middle, c.mailText day month zone = day ++ (middle ++ zone) := by
  refine ⟨' ' :: (month ++ ' ' :: (padded 4 c.date.year.toNat ++ ' ' :: (c.clockText ++ [' ']))), ?_⟩
  simp [mailText]

/-- A zone is a word. -/
theorem isWord_zone {zone : List Char} (h : zone = o.text true ∨ (o.seconds = 0 ∧ zone = ['Z'])) :
    IsWord zone := by
  rcases h with rfl | ⟨-, rfl⟩
  · exact o.isWord_text true
  · exact ⟨List.cons_ne_nil _ _, List.forall_mem_singleton.2 rfl⟩

/-- No weekday starts with a digit. -/
theorem not_weekday_of_number {n : Nat} {text : List Char} (h : IsNumber n text) (rest : List Char) :
    weekday (text ++ rest) = none := by
  refine Option.eq_none_iff_forall_ne_some.2 fun x hx => ?_
  obtain ⟨a, b, d, hletters, hall⟩ := lettered_of_weekday hx
  cases text with
  | nil => exact absurd rfl h.isWord.1
  | cons c text =>
    obtain ⟨rfl, -⟩ := List.cons.inj hletters
    have hdigit := h.isDigit c List.mem_cons_self
    rw [not_isDigit_of_isAlpha (hall c List.mem_cons_self)] at hdigit
    cases hdigit

/-- Without a weekday the mail form starts with the day. -/
theorem fields?_mail {day month : List Char} (hday : IsNumber c.date.day day)
    (hmonth : IsName monthNames (c.date.month - 1) month) :
    Mail.fields? (trim (c.mailText day month (o.text false))) = some (c.fields o) := by
  obtain ⟨middle, htext⟩ := c.mailText_eq day month (o.text false)
  have hskip : skipBlank (c.mailText day month (o.text false)) =
      c.mailText day month (o.text false) := by
    rw [htext]
    exact hday.isWord.skipBlank_append _
  have hnone : weekday (c.mailText day month (o.text false)) = none := by
    rw [htext]
    exact not_weekday_of_number hday _
  have htrim : trim (c.mailText day month (o.text false)) = c.mailText day month (o.text false) := by
    rw [htext]
    exact trim_words hday.isWord (o.isWord_text false) middle
  rw [htrim]
  refine fields?_mailText ?_ hskip hday hmonth
  rw [hskip]
  unfold Mail.optionalWeekday
  rw [hnone]

/-- Nothing is trimmed from a mail with its day of the week either. -/
theorem trim_mailWeekday {w : Nat} {weekday : List Char} (hweekday : IsName weekdayNames w weekday)
    (day month : List Char) :
    trim (weekday ++ ',' :: ' ' :: c.mailText day month (o.text false)) =
      weekday ++ ',' :: ' ' :: c.mailText day month (o.text false) := by
  obtain ⟨middle, htext⟩ := c.mailText_eq day month (o.text false)
  have hsplit : weekday ++ ',' :: ' ' :: c.mailText day month (o.text false) =
      weekday ++ ((',' :: ' ' :: (day ++ middle)) ++ o.text false) := by
    rw [htext]
    simp
  rw [hsplit]
  exact trim_words (hweekday.isWord (by decide)) (o.isWord_text false) _

/-- With a weekday it starts with that. -/
theorem fields?_mailWeekday {w : Nat} {weekday day month : List Char}
    (hweekday : IsName weekdayNames w weekday) (hday : IsNumber c.date.day day)
    (hmonth : IsName monthNames (c.date.month - 1) month) :
    Mail.fields? (trim (weekday ++ ',' :: ' ' :: c.mailText day month (o.text false))) =
      some { c.fields o with weekday := some w } := by
  obtain ⟨middle, htext⟩ := c.mailText_eq day month (o.text false)
  have hskip : skipBlank (' ' :: c.mailText day month (o.text false)) =
      c.mailText day month (o.text false) := by
    rw [htext]
    exact hday.isWord.skipBlank_append _
  have hword : IsWord weekday := hweekday.isWord (by decide)
  rw [trim_mailWeekday hweekday]
  refine fields?_mailText ?_ hskip hday hmonth
  rw [hword.skipBlank_append]
  unfold Mail.optionalWeekday
  rw [hweekday.weekday_append]
  rfl

/-- What a civil time is written as is read as the instant that it denotes. -/
theorem Writes.read?_eq {secs : Int} (hsecs : c.Denotes o secs) {nanos : Nat} {text : List Char}
    (h : c.Writes o nanos text) : Timestamp.read? text = some ⟨secs, nanos⟩ := by
  have hzero : 0 < secondNanos := by decide
  cases h with
  | @internet separator nanos fraction zone hseparator hfraction hzone =>
    have hinstant := instant?_eq hsecs hfraction.isFraction.lt fun w (hw : w ∈ none) =>
      absurd hw (Option.not_mem_none w)
    have hread : Form.internet.read? (trim (c.internetText separator fraction zone)) =
        some ⟨secs, nanos⟩ := by
      rw [trim_internetText _ (isWord_zone hzone)]
      show (Internet.fields? _).bind Fields.instant? = _
      rw [fields?_internetText hseparator hfraction hzone]
      exact hinstant
    exact Timestamp.read?_of_form hread
  | mail hday hmonth =>
    rw [Timestamp.read?_of_mail (fields?_mail hday hmonth)]
    exact instant?_eq hsecs hzero fun w hw => absurd hw (Option.not_mem_none w)
  | mailWeekday hweekday hfalls hday hmonth =>
    rw [Timestamp.read?_of_mail (fields?_mailWeekday hweekday hday hmonth)]
    exact instant?_eq hsecs hzero fun w hw => Option.some.inj hw ▸ hfalls

/-- With a wrong weekday the mail form is refused. -/
theorem read?_of_wrong {w : Nat} {weekday day month : List Char}
    (hweekday : IsName weekdayNames w weekday) (hwrong : ¬c.FallsOn w)
    (hday : IsNumber c.date.day day) (hmonth : IsName monthNames (c.date.month - 1) month) :
    Timestamp.read? (weekday ++ ',' :: ' ' :: c.mailText day month (o.text false)) = none := by
  rw [Timestamp.read?_of_mail (fields?_mailWeekday hweekday hday hmonth)]
  exact instant?_of_wrong hwrong

end Civil

end Stratum.Time

namespace Stratum.Source

open Text Time

/-- **The zone in which a time is written makes no difference to the instant.** A civil time of a year
with four digits at an offset of less than a day denotes the seconds since 1970-01-01, counted day
after day, less the offset; and whatever it is written as is read as just these seconds, and the
nanoseconds of its fraction. In the mail form a weekday that is not that of the day is refused. So
two texts for one instant are read alike, whatever the offsets. -/
theorem readTime_zoned (c : Civil) (o : Offset) :
    ∃ secs, c.Denotes o secs ∧
      (∀ nanos text, c.Writes o nanos text → readTime text = .ok ⟨secs, nanos⟩) ∧
      (∀ w weekday day month, IsName weekdayNames w weekday → ¬c.FallsOn w →
        IsNumber c.date.day day → IsName monthNames (c.date.month - 1) month →
        readTime (weekday ++ ',' :: ' ' :: c.mailText day month (o.text false)) =
          .error (.badTimestamp
            (String.ofList (weekday ++ ',' :: ' ' :: c.mailText day month (o.text false))))) ∧
      ∀ c' o', Civil.Denotes c' o' secs → ∀ nanos text text', c.Writes o nanos text →
        c'.Writes o' nanos text' → readTime text = readTime text' := by
  obtain ⟨secs, hsecs⟩ := c.exists_denotes o
  refine ⟨secs, hsecs, ?_, ?_, ?_⟩
  · intro nanos text hwrites
    exact readTime_of_some (hwrites.read?_eq hsecs)
  · intro w weekday day month hweekday hwrong hday hmonth
    rw [readTime_of_none (Civil.read?_of_wrong hweekday hwrong hday hmonth),
      Civil.trim_mailWeekday hweekday]
  · intro c' o' hsecs' nanos text text' hwrites hwrites'
    rw [readTime_of_some (hwrites.read?_eq hsecs), readTime_of_some (hwrites'.read?_eq hsecs')]

/-- Half an hour after February 2020 had ended, an hour east of UTC. -/
theorem readTime_zoned_leapDay :
    readTime "2020-03-01 00:30:00.500+01:00".toList = readTime "2020-02-29T23:30:00.5Z".toList ∧
      readTime "sun, 1 MAR 2020 00:30:00 +0100".toList = .ok ⟨1583019000, 0⟩ ∧
      readTime "Sat, 01 Mar 2020 00:30:00 +0100".toList =
        .error (.badTimestamp "Sat, 01 Mar 2020 00:30:00 +0100") := by
  let east : Civil := ⟨⟨2020, 3, 1, by decide, by decide⟩, 0, 30, 0, by decide, by decide⟩
  let utc : Civil := ⟨⟨2020, 2, 29, by decide, by decide⟩, 23, 30, 0, by decide, by decide⟩
  let hour : Offset := ⟨false, 1, 0, by decide, by decide⟩
  let zulu : Offset := ⟨false, 0, 0, by decide, by decide⟩
  have hcounted : east.date.Counted 18322 := Date.counted_iff.2 (by decide +kernel)
  have hcounted' : utc.date.Counted 18321 := Date.counted_iff.2 (by decide +kernel)
  have hname : ∀ {text : List Char}, "mar".toList = text.map Char.toLower →
      IsName monthNames (east.date.month - 1) text := fun h => congrArg some h
  obtain ⟨secs, hsecs, hread, hwrong, hsame⟩ := readTime_zoned east hour
  obtain rfl : secs = 1583019000 := hsecs.unique ⟨18322, hcounted, by decide⟩
  refine ⟨?_, ?_, ?_⟩
  · have heast : "2020-03-01 00:30:00.500+01:00".toList =
        east.internetText ' ' ('.' :: Numeral.padded 3 500) (hour.text true) := by decide +kernel
    have hutc : "2020-02-29T23:30:00.5Z".toList =
        utc.internetText 'T' ('.' :: Numeral.padded 1 5) ['Z'] := by decide +kernel
    rw [heast, hutc]
    exact hsame utc zulu ⟨18321, hcounted', by decide⟩ 500000000 _ _
      (.internet (by decide) (@FractionText.digits 3 500 (by decide) (by decide)) (Or.inl rfl))
      (.internet (by decide) (@FractionText.digits 1 5 (by decide) (by decide))
        (Or.inr ⟨by decide, rfl⟩))
  · have htext : "sun, 1 MAR 2020 00:30:00 +0100".toList =
        "sun".toList ++ ',' :: ' ' :: east.mailText ['1'] "MAR".toList (hour.text false) := by
      decide +kernel
    rw [htext]
    exact hread 0 _ (.mailWeekday (w := 6) (by decide) ⟨18322, hcounted, by decide⟩
      (Or.inl (by decide +kernel)) (hname (by decide)))
  · have htext : "Sat, 01 Mar 2020 00:30:00 +0100".toList =
        "Sat".toList ++ ',' :: ' ' :: east.mailText ['0', '1'] "Mar".toList (hour.text false) := by
      decide +kernel
    have hfalls : ¬east.FallsOn 5 := fun h => absurd (Civil.fallsOn_iff.1 h) (by decide +kernel)
    have hrefused := hwrong 5 "Sat".toList ['0', '1'] "Mar".toList (by decide) hfalls
      (Or.inr (by decide +kernel)) (hname (by decide))
    rw [← htext, String.ofList_toList] at hrefused
    exact hrefused

end Stratum.Source
