import Mathlib.Data.List.Nodup
import Stratum.Proofs.Fronts
import Stratum.Proofs.Numerals
import Stratum.Proofs.Words

/-!
# The parts of a time as they are written

A time is written in parts: names, numbers of two digits with colons between them, a fraction of a
second, an offset from UTC. Each part is taken off the front of a text as it was written, whatever
follows it; only behind a fraction no digit may follow, and where there is none no full stop.

> `name_append`: a name in any case of letters is taken for the name.
> `IsFraction.optionalFraction_eq`: a fraction counts nanoseconds, in its first nine digits.
> `offset_append`: an offset is taken for its seconds, east of UTC or west.
-/

namespace Stratum.Time

open Text Text.Numeral Scan

/-! ## Names -/

/-- The name at a place of a list, in any case of letters. -/
def IsName (names : List (List Char)) (i : Nat) (text : List Char) : Prop :=
  names[i]? = some (text.map Char.toLower)

instance (names : List (List Char)) (i : Nat) (text : List Char) :
    Decidable (IsName names i text) :=
  inferInstanceAs (Decidable (names[i]? = _))

namespace IsName

variable {names : List (List Char)} {i : Nat} {text : List Char}

/-- A name of three letters has three letters, in whatever case. -/
theorem length_eq (hnames : names.all (·.length == 3) = true) (h : IsName names i text) :
    text.length = 3 := by
  have hlen := List.all_eq_true.1 hnames _ (List.mem_of_getElem? h)
  rw [List.length_map] at hlen
  exact beq_iff_eq.1 hlen

/-- A name is taken off in front of whatever follows: no other of these names starts like it. -/
theorem name_append (hnames : names.all (·.length == 3) = true) (hnodup : names.Nodup)
    (h : IsName names i text) (rest : List Char) : name names (text ++ rest) = some (i, rest) := by
  have hlen := h.length_eq hnames
  obtain ⟨hi, hget⟩ := List.getElem?_eq_some_iff.1 h
  have hplace : names.idxOf? (text.map Char.toLower) = some i := by
    refine List.idxOf?_eq_some_iff.2 ⟨hi, hget, fun j hj heq => ?_⟩
    have hsame := hnodup.getElem_inj_iff.1 (heq.trans hget.symm)
    omega
  unfold name
  rw [← hlen, List.take_left, List.drop_left, hplace]
  rfl

/-- A day of the week, counted from Monday as zero. -/
theorem weekday_append (h : IsName weekdayNames i text) (rest : List Char) :
    weekday (text ++ rest) = some (i, rest) :=
  h.name_append (by decide) (by decide) rest

/-- A month, counted from one. -/
theorem month_append (h : IsName monthNames i text) (rest : List Char) :
    Scan.month (text ++ rest) = some (i + 1, rest) := by
  unfold Scan.month
  rw [h.name_append (by decide) (by decide) rest]
  rfl

/-- A name is three letters. -/
theorem letters (hnames : names.all (fun n => n.length == 3 && n.all Char.isAlpha) = true)
    (h : IsName names i text) : ∃ a b c, text = [a, b, c] ∧ ∀ x ∈ text, x.isAlpha = true := by
  have hname := List.all_eq_true.1 hnames _ (List.mem_of_getElem? h)
  obtain ⟨hlen, hall⟩ := Bool.and_eq_true_iff.1 hname
  rw [List.length_map] at hlen
  obtain ⟨a, b, c, htext⟩ := List.length_eq_three.1 (beq_iff_eq.1 hlen)
  refine ⟨a, b, c, htext, fun x hx => ?_⟩
  exact isAlpha_of_toLower (List.all_eq_true.1 hall _ (List.mem_map_of_mem hx))

/-- Such a name has no blank in it. -/
theorem isWord (hnames : names.all (fun n => n.length == 3 && n.all Char.isAlpha) = true)
    (h : IsName names i text) : IsWord text := by
  obtain ⟨a, b, c, rfl, hletters⟩ := h.letters hnames
  exact ⟨List.cons_ne_nil _ _, fun x hx => not_isBlank_of_isAlpha (hletters x hx)⟩

end IsName

/-! ## Numbers -/

/-- The digits in front are all of them, if none follows. -/
theorem takeWhile_isDigit_append {ds rest : List Char} (hds : ∀ c ∈ ds, c.isDigit = true)
    (hrest : NoDigit rest) : (ds ++ rest).takeWhile Char.isDigit = ds := by
  rw [List.takeWhile_append_of_pos hds]
  cases rest with
  | nil => exact List.append_nil ds
  | cons c r =>
    have hc : c.isDigit = false := hrest c rfl
    rw [List.takeWhile_cons_of_neg (by rw [hc]; decide), List.append_nil]

/-- A text has its digits in front in one way only. -/
theorem digits_append_inj {ds ds' rest rest' : List Char} (hds : ∀ c ∈ ds, c.isDigit = true)
    (hds' : ∀ c ∈ ds', c.isDigit = true) (hrest : NoDigit rest) (hrest' : NoDigit rest')
    (h : ds ++ rest = ds' ++ rest') : ds = ds' ∧ rest = rest' := by
  have hsame : ds = ds' := by
    rw [← takeWhile_isDigit_append hds hrest, h, takeWhile_isDigit_append hds' hrest']
  subst hsame
  exact ⟨rfl, List.append_cancel_left h⟩

/-- A padded number is a word. -/
theorem isWord_padded {w : Nat} (hw : 0 < w) (n : Nat) : IsWord (padded w n) := by
  refine ⟨fun hnil => ?_, fun c hc => not_isBlank_of_isDigit (isDigit_of_mem_padded hc)⟩
  have hlen := le_length_padded w n
  rw [hnil, List.length_nil] at hlen
  omega

/-- The numbers on a clock are written with two digits. -/
theorem number_two {n : Nat} (hn : n < 60) (rest : List Char) :
    number 2 2 (padded 2 n ++ rest) = some (n, rest) :=
  number_padded (by decide) (by omega) (Nat.le_refl 2) rest

/-- A number with as many digits as it needs, or with two at least. -/
def IsNumber (n : Nat) (text : List Char) : Prop := text = Numeral.digits n ∨ text = padded 2 n

instance (n : Nat) (text : List Char) : Decidable (IsNumber n text) :=
  inferInstanceAs (Decidable (_ ∨ text = padded 2 n))

namespace IsNumber

variable {n : Nat} {text rest : List Char}

/-- A number is written in digits, with or without a zero in front. -/
theorem isDigit (h : IsNumber n text) : ∀ c ∈ text, c.isDigit = true := by
  rcases h with rfl | rfl
  · exact List.all_eq_true.1 (all_isDigit_digits n)
  · exact fun c => isDigit_of_mem_padded

/-- They have its value. -/
theorem value_eq (h : IsNumber n text) : value text = n := by
  rcases h with rfl | rfl
  · exact value_digits n
  · exact value_padded 2 n

/-- There is at least one of them. -/
theorem length_pos (h : IsNumber n text) : 0 < text.length := by
  rcases h with rfl | rfl
  · exact List.length_pos_iff.2 (digits_ne_nil n)
  · exact Nat.lt_of_lt_of_le (by decide) (le_length_padded 2 n)

theorem isWord (h : IsNumber n text) : IsWord text :=
  ⟨List.length_pos_iff.1 h.length_pos, fun c hc => not_isBlank_of_isDigit (h.isDigit c hc)⟩

/-- Two digits are enough for a number below a hundred, and for no other. -/
theorem length_le_iff (h : IsNumber n text) : text.length ≤ 2 ↔ n < 100 := by
  have hdigits : (Numeral.digits n).length ≤ 2 ↔ n < 100 :=
    Nat.length_toDigits_le_iff (by decide) (by decide)
  rcases h with rfl | rfl
  · exact hdigits
  · unfold padded
    rw [List.length_leftpad, ← hdigits]
    omega

/-- A number of at most two digits is taken off in front of what is no digit. -/
theorem number_append (h : IsNumber n text) (hn : n < 100) (hrest : NoDigit rest) :
    number 1 2 (text ++ rest) = some (n, rest) :=
  number_eq_some_iff.2 ⟨text, rfl, h.isDigit, h.length_pos, h.length_le_iff.2 hn, Or.inr hrest,
    h.value_eq⟩

/-- Where no digit is left behind it, a number was taken as it is. -/
theorem of_number {k : Nat} {r : List Char} (h : IsNumber n text) (hrest : NoDigit rest)
    (hr : NoDigit r) (hread : number 1 2 (text ++ rest) = some (k, r)) :
    n < 100 ∧ k = n ∧ r = rest := by
  obtain ⟨ds, htext, hds, -, hlen, -, hvalue⟩ := number_eq_some_iff.1 hread
  obtain ⟨rfl, rfl⟩ := digits_append_inj h.isDigit hds hrest hr htext
  exact ⟨h.length_le_iff.1 hlen, hvalue.symm.trans h.value_eq, rfl⟩

end IsNumber

/-! ## Fractions of a second -/

/-- A fraction of a second as it is written, with its nanoseconds: nothing at all, or one to nine
digits behind a full stop. -/
inductive FractionText : Nat → List Char → Prop
  | none : FractionText 0 []
  | digits {places n : Nat} (hplaces : 1 ≤ places ∧ places ≤ 9) (hn : n < 10 ^ places) :
    FractionText (n * 10 ^ (9 - places)) ('.' :: padded places n)

/-- A fraction of a second with any number of digits behind a full stop, or nothing; nine digits
count. -/
inductive IsFraction : Nat → List Char → Prop
  | none : IsFraction 0 []
  | digits {ds : List Char} (h : IsDigits ds) :
    IsFraction (value (List.rightpad 9 '0' (ds.take 9))) ('.' :: ds)

/-- Zeros behind a number multiply it. -/
theorem value_rightpad (w : Nat) (ds : List Char) :
    value (List.rightpad w '0' ds) = value ds * 10 ^ (w - ds.length) := by
  show Nat.ofDigitChars 10 (ds ++ List.replicate _ '0') 0 = _
  rw [Nat.ofDigitChars_append, Nat.ofDigitChars_replicate_zero, Nat.mul_comm]
  rfl

namespace IsFraction

variable {nanos : Nat} {text rest : List Char}

/-- A fraction has no blanks, so it belongs to the word in front of it. -/
theorem not_isBlank (h : IsFraction nanos text) : ∀ c ∈ text, isBlank c = false := by
  cases h with
  | none => exact List.forall_mem_nil _
  | digits h =>
    exact List.forall_mem_cons.2 ⟨by decide, fun c hc => not_isBlank_of_isDigit (h.2 c hc)⟩

/-- It is less than a second. -/
theorem lt (h : IsFraction nanos text) : nanos < secondNanos := by
  cases h with
  | none => decide
  | @digits ds h =>
    have hdigits : ∀ c ∈ ds.take 9, c.isDigit = true := fun c hc => h.2 c (List.mem_of_mem_take hc)
    have hlen : (ds.take 9).length ≤ 9 := List.length_take_le 9 ds
    have hpower : 10 ^ (ds.take 9).length * 10 ^ (9 - (ds.take 9).length) = secondNanos := by
      rw [← Nat.pow_add, Nat.add_sub_cancel' hlen]
      rfl
    rw [value_rightpad, ← hpower]
    exact Nat.mul_lt_mul_of_pos_right (value_lt hdigits) (Nat.pow_pos (by decide))

/-- A fraction is taken off the front, if what follows would not continue it. -/
theorem optionalFraction_eq (h : IsFraction nanos text) (hrest : NoDigit rest)
    (hstop : rest.head? ≠ some '.') : optionalFraction (text ++ rest) = some (nanos, rest) := by
  cases h with
  | none =>
    rw [List.nil_append]
    unfold optionalFraction
    split
    next => exact absurd rfl hstop
    next => rfl
  | @digits ds h =>
    have hdigits := takeWhile_isDigit_append h.2 hrest
    show fraction (ds ++ rest) = _
    unfold fraction
    simp only [hdigits, List.isEmpty_eq_false_iff.2 h.1, Bool.false_eq_true, if_false,
      List.drop_left]

/-- A fraction at the end of a text is read to the end. -/
theorem optionalFraction_eq_self (h : IsFraction nanos text) :
    optionalFraction text = some (nanos, []) := by
  have hall : optionalFraction (text ++ []) = some (nanos, []) := h.optionalFraction_eq nofun nofun
  rwa [List.append_nil] at hall

end IsFraction

/-- A fraction that is written in nine digits or fewer is one that is read. -/
theorem FractionText.isFraction {nanos : Nat} {text : List Char} (h : FractionText nanos text) :
    IsFraction nanos text := by
  cases h with
  | none => exact .none
  | @digits places n hplaces hn =>
    have hlen : (padded places n).length = places := length_padded (by omega) hn
    have hdigits : IsDigits (padded places n) :=
      ⟨(isWord_padded hplaces.1 n).1, fun _ => isDigit_of_mem_padded⟩
    have hfraction := IsFraction.digits hdigits
    rwa [List.take_of_length_le (hlen.le.trans hplaces.2), value_rightpad, value_padded, hlen] at hfraction

theorem optionalFraction_append {nanos : Nat} {text rest : List Char} {c : Char}
    (h : FractionText nanos text) (hc : c.isDigit = false ∧ c ≠ '.') :
    optionalFraction (text ++ c :: rest) = some (nanos, c :: rest) :=
  h.isFraction.optionalFraction_eq (noDigit_cons hc.1 rest) fun heq => hc.2 (Option.some.inj heq)

/-! ## Offsets -/

/-- An offset from UTC as it is written: less than a day, in hours and minutes. -/
structure Offset where
  west : Bool
  hours : Nat
  minutes : Nat
  hours_lt : hours < 24
  minutes_lt : minutes < 60

namespace Offset

/-- How many seconds the clocks are ahead of UTC. -/
def seconds (o : Offset) : Int :=
  if o.west then -(o.hours * 3600 + o.minutes * 60) else o.hours * 3600 + o.minutes * 60

/-- What stands between the hours and the minutes. -/
def between (colon : Bool) : List Char := if colon then [':'] else []

/-- A sign, two digits and two more, with a colon between them or without. -/
def text (colon : Bool) (o : Offset) : List Char :=
  (if o.west then '-' else '+') :: (padded 2 o.hours ++ (between colon ++ padded 2 o.minutes))

/-- An offset is less than a day. -/
theorem seconds_bounds (o : Offset) : -daySeconds < o.seconds ∧ o.seconds < daySeconds := by
  have hhours := o.hours_lt
  have hminutes := o.minutes_lt
  unfold seconds daySeconds
  split <;> omega

/-- It is written without blanks. -/
theorem isWord_text (colon : Bool) (o : Offset) : IsWord (o.text colon) := by
  refine ⟨List.cons_ne_nil _ _, fun c hc => ?_⟩
  have hdigits : ∀ {n : Nat}, c ∈ padded 2 n → isBlank c = false := fun h =>
    not_isBlank_of_isDigit (isDigit_of_mem_padded h)
  rcases List.mem_cons.1 hc with rfl | hc
  · cases o.west <;> decide
  rcases List.mem_append.1 hc with hc | hc
  · exact hdigits hc
  rcases List.mem_append.1 hc with hc | hc
  · cases colon with
    | true => exact List.mem_singleton.1 hc ▸ (by decide)
    | false => cases hc
  · exact hdigits hc

/-- Its sign is read first, and the hours and minutes are left. -/
theorem sign_append (colon : Bool) (o : Offset) (rest : List Char) :
    Zone.sign colon (o.text colon ++ rest) = some (if o.west then -1 else 1,
      padded 2 o.hours ++ (between colon ++ (padded 2 o.minutes ++ rest))) := by
  unfold text
  rw [List.cons_append, List.append_assoc, List.append_assoc]
  cases o.west <;> rfl

/-- **An offset is read back**, with a colon or without one. -/
theorem offset_append (colon : Bool) (o : Offset) (rest : List Char) :
    Zone.offset colon (o.text colon ++ rest) = some (o.seconds, rest) := by
  have hhours := number_two (Nat.lt_trans o.hours_lt (by decide))
    (between colon ++ (padded 2 o.minutes ++ rest))
  have hminutes := number_two o.minutes_lt rest
  have hseconds : (if o.west then -1 else 1 : Int) * (o.hours * 3600 + o.minutes * 60 : Nat) =
      o.seconds := by
    unfold seconds
    split <;> omega
  unfold Zone.offset
  rw [sign_append]
  simp only [Option.bind_eq_bind, Option.bind_some, hhours]
  cases colon with
  | true =>
    have hcolon : literal ':' (between true ++ (padded 2 o.minutes ++ rest)) =
        some (padded 2 o.minutes ++ rest) := rfl
    simp only [if_true, hcolon, Option.bind_some, hminutes, o.minutes_lt, hseconds]
  | false =>
    have hnone : between false ++ (padded 2 o.minutes ++ rest) = padded 2 o.minutes ++ rest := rfl
    simp only [Bool.false_eq_true, if_false, hnone, Option.bind_some, hminutes, o.minutes_lt,
      if_true, hseconds]

end Offset

end Stratum.Time
