import Mathlib.Data.List.TakeWhile
import Stratum.Proofs.Digits
import Stratum.Toml.Reader

/-!
# How keys and values of TOML are spelled

A text is spelled with escapes between double quotes, or as it is between single ones; a key also
without quotes. Each of them is taken off the front of whatever stands behind it. A scalar that is no
text is a word, and it ends where the line ends.

> `exists_quoted`: every text can be spelled.
> `keyPart?_append`, `value?_append`: keys and values are read as what they are spelled for.
-/

namespace Stratum.Toml

open Text Time

variable {w s r : List Char} {c : Char} {k : String}

/-! ## Spellings -/

/-- What stands behind a backslash for a character: a letter, or the hexadecimal digits of its code
point, four of them or eight. -/
inductive Escape : List Char → Char → Prop
  | letter {e c : Char} (h : escaped? e = some c) : Escape [e] c
  | short {a b c d x : Char} (h : codePoint? [a, b, c, d] = some x) : Escape ['u', a, b, c, d] x
  | long {a b c d e f g h x : Char} (hx : codePoint? [a, b, c, d, e, f, g, h] = some x) :
    Escape ['U', a, b, c, d, e, f, g, h] x

/-- What stands between double quotes for a text. -/
inductive Basic : List Char → List Char → Prop
  | nil : Basic [] []
  | plain {c : Char} {w s : List Char} (hc : isPrintable c = true) (hquote : c ≠ '"')
    (hbackslash : c ≠ '\\') (h : Basic w s) : Basic (c :: w) (c :: s)
  | escape {e w s : List Char} {c : Char} (he : Escape e c) (h : Basic w s) :
    Basic ('\\' :: (e ++ w)) (c :: s)

/-- A text between quotes, double ones or single ones. -/
inductive Quoted : List Char → String → Prop
  | basic {w s : List Char} (h : Basic w s) : Quoted ('"' :: (w ++ ['"'])) (String.ofList s)
  | literal {s : List Char} (h : ∀ c ∈ s, isPrintable c = true ∧ c ≠ '\'') :
    Quoted ('\'' :: (s ++ ['\''])) (String.ofList s)

/-- A key, between quotes or bare. -/
inductive KeyText : List Char → String → Prop
  | bare {k : List Char} (hne : k ≠ []) (h : ∀ c ∈ k, isKeyChar c = true) :
    KeyText k (String.ofList k)
  | quoted {w : List Char} {k : String} (h : Quoted w k) : KeyText w k

/-- A value and its text, if it is one; any other scalar is a single word. -/
inductive ValueText : List Char → Option String → Prop
  | text {w : List Char} {s : String} (h : Quoted w s) : ValueText w (some s)
  | scalar {w : List Char} (hword : word w = w) (h : isScalar w = true) : ValueText w none

/-! ## Every text can be spelled -/

/-- What cannot stand for itself has an escape: a short one or one of eight digits. -/
theorem exists_escape (hc : isPrintable c = false ∨ c = '"' ∨ c = '\\') : ∃ e, Escape e c := by
  rcases hc with hc | rfl | rfl
  · -- There are thirty-two control characters, one of them the tab, and one more.
    have hall : ∀ n ∈ List.range 128, isPrintable (Char.ofNat n) = true ∨
        codePoint? ['0', '0', Nat.digitChar (n / 16), Nat.digitChar (n % 16)] =
          some (Char.ofNat n) := by decide +kernel
    have hsmall : c.toNat < 128 := by
      unfold isPrintable at hc
      simp only [Bool.or_eq_false_iff, Bool.and_eq_false_iff, decide_eq_false_iff_not,
        bne_eq_false_iff_eq] at hc
      omega
    have hsome := hall c.toNat (List.mem_range.2 hsmall)
    rw [Char.ofNat_toNat, hc] at hsome
    exact ⟨_, .short (hsome.resolve_left Bool.false_ne_true)⟩
  · exact ⟨['"'], .letter rfl⟩
  · exact ⟨['\\'], .letter rfl⟩

/-- So any text has a spelling between double quotes. -/
theorem exists_basic (s : List Char) : ∃ w, Basic w s := by
  induction s with
  | nil => exact ⟨[], .nil⟩
  | cons c s ih =>
    obtain ⟨w, hw⟩ := ih
    by_cases hspecial : isPrintable c = false ∨ c = '"' ∨ c = '\\'
    · obtain ⟨e, he⟩ := exists_escape hspecial
      exact ⟨_, .escape he hw⟩
    · obtain ⟨hc, hquote, hbackslash⟩ : isPrintable c ≠ false ∧ c ≠ '"' ∧ c ≠ '\\' := by
        rwa [not_or, not_or] at hspecial
      exact ⟨c :: w, .plain (eq_true_of_ne_false hc) hquote hbackslash hw⟩

/-- **Every text can be spelled.** -/
theorem exists_quoted (s : String) : ∃ w, Quoted w s := by
  obtain ⟨w, hw⟩ := exists_basic s.toList
  have hquoted := Quoted.basic hw
  rw [String.ofList_toList] at hquoted
  exact ⟨_, hquoted⟩

/-- A text of printable characters without a single quote can stand between single quotes. -/
theorem quoted_literal {s : List Char} (h : s.all (fun c => isPrintable c && c != '\'') = true) :
    Quoted ('\'' :: (s ++ ['\''])) (String.ofList s) := by
  refine .literal fun c hc => ?_
  have hc := List.all_eq_true.1 h c hc
  rw [Bool.and_eq_true, bne_iff_ne] at hc
  exact hc

/-! ## Texts are read -/

/-- An escape is read to its end and not farther. -/
theorem Escape.escape?_append {e : List Char} (h : Escape e c) (r : List Char) :
    escape? (e ++ r) = some (c, r) := by
  cases h with
  | @letter e c h =>
    have hshort : e ≠ 'u' := by
      rintro rfl
      cases h
    have hlong : e ≠ 'U' := by
      rintro rfl
      cases h
    rw [List.singleton_append, escape?.eq_def]
    split
    next heq => exact absurd (List.cons.inj heq).1 hshort
    next heq => exact absurd (List.cons.inj heq).1 hlong
    next heq =>
      obtain ⟨rfl, rfl⟩ := List.cons.inj heq
      rw [h]
      rfl
    next heq => cases heq
  | short h => simp only [List.cons_append, List.nil_append, escape?, h, Option.map_some]
  | long h => simp only [List.cons_append, List.nil_append, escape?, h, Option.map_some]

/-- What stands between double quotes is read to the closing one. -/
theorem Basic.body (h : Basic w s) (r : List Char) : basicBody? (w ++ '"' :: r) = some (s, r) := by
  induction h with
  | nil =>
    rw [List.nil_append, basicBody?]
    rfl
  | plain hc hquote hbackslash _ ih =>
    rw [List.cons_append, basicBody?, if_neg hquote, if_neg hbackslash, if_pos hc, ih]
    rfl
  | escape he _ ih =>
    rw [List.cons_append, List.append_assoc, basicBody?, if_neg (by decide), if_pos rfl]
    split
    next hnone =>
      rw [he.escape?_append] at hnone
      cases hnone
    next hsome =>
      rw [he.escape?_append] at hsome
      cases hsome
      rw [ih]
      rfl

/-- Between single quotes everything stands for itself. -/
theorem literalBody?_append (h : ∀ c ∈ s, isPrintable c = true ∧ c ≠ '\'') (r : List Char) :
    literalBody? (s ++ '\'' :: r) = some (s, r) := by
  induction s with
  | nil => rfl
  | cons c s ih =>
    obtain ⟨hc, hquote⟩ := h c List.mem_cons_self
    rw [List.cons_append, literalBody?, if_neg hquote, if_pos hc,
      ih fun d hd => h d (List.mem_cons_of_mem c hd)]
    rfl

/-- A quoted text is read as the text it spells, with either kind of quotes. -/
theorem Quoted.lineString?_append (h : Quoted w k) (r : List Char) :
    lineString? (w ++ r) = some (k.toList, r) := by
  cases h with
  | basic h =>
    rw [List.cons_append, List.append_assoc, String.toList_ofList]
    exact h.body r
  | literal h =>
    rw [List.cons_append, List.append_assoc, String.toList_ofList]
    exact literalBody?_append h r

/-- What is between quotes does not start with one, so there are no three quotes in a row, not even
around the empty text. -/
theorem quotes_ne {q : Char} (hw : w.head? ≠ some q) (hq : '\n' ≠ q) (r t : List Char) :
    w ++ [q] ++ '\n' :: r ≠ q :: q :: t := by
  intro heq
  cases w with
  | nil => exact hq (List.cons.inj (List.cons.inj heq).2).1
  | cons c w => exact hw (congrArg some (List.cons.inj heq).1)

/-- A double quote inside is escaped, so two of them in a row are the empty text. -/
theorem Basic.head?_ne (h : Basic w s) : w.head? ≠ some '"' := by
  cases h with
  | nil => nofun
  | plain _ hquote => exact fun heq => hquote (Option.some.inj heq)
  | escape => nofun

/-- A quoted text is not taken for the start of one over several lines. -/
theorem Quoted.string?_append (h : Quoted w k) (r : List Char) :
    string? (w ++ '\n' :: r) = some (k.toList, '\n' :: r) := by
  have hread := h.lineString?_append ('\n' :: r)
  rw [string?.eq_def]
  split
  next heq =>
    cases h with
    | basic h => exact absurd (List.cons.inj heq).2 (quotes_ne h.head?_ne (by decide) _ _)
    | literal => cases heq
  next heq =>
    cases h with
    | basic => cases heq
    | @literal s h =>
      have hhead : s.head? ≠ some '\'' := fun hs => (h _ (List.mem_of_head? hs)).2 rfl
      exact absurd (List.cons.inj heq).2 (quotes_ne hhead (by decide) _ _)
  next => exact hread

/-! ## Keys are read -/

theorem ne_of_any_eq_false {p : Char → Bool} {l : List Char} (h : l.any p = false)
    (hc : p c = true) : ∀ d ∈ l, c ≠ d := by
  rintro d hd rfl
  exact List.any_eq_false.1 h c hd hc

/-- No character of a bare key is one of these. -/
theorem ne_of_isKeyChar (hc : isKeyChar c = true) :
    ∀ d ∈ ['"', '\'', ' ', '\t', '\n', '#', '[', '\uFEFF'], c ≠ d :=
  ne_of_any_eq_false (by decide) hc

/-- A key starts with a character of bare keys or with a quote. -/
theorem KeyText.exists_cons (h : KeyText w k) :
    ∃ c t, w = c :: t ∧ (isKeyChar c = true ∨ c = '"' ∨ c = '\'') := by
  cases h with
  | bare hne h =>
    obtain ⟨c, t, rfl⟩ := List.exists_cons_of_ne_nil hne
    exact ⟨c, t, rfl, Or.inl (h c List.mem_cons_self)⟩
  | quoted h =>
    cases h with
    | basic => exact ⟨_, _, rfl, Or.inr (Or.inl rfl)⟩
    | literal => exact ⟨_, _, rfl, Or.inr (Or.inr rfl)⟩

/-- A bare key is read as it stands. -/
theorem keyPart?_bare (hw : w ≠ []) (h : ∀ c ∈ w, isKeyChar c = true) (r : List Char) :
    keyPart? (w ++ ' ' :: r) = some (String.ofList w, ' ' :: r) := by
  have htake : (w ++ ' ' :: r).takeWhile isKeyChar = w := by
    rw [List.takeWhile_append_of_pos h, List.takeWhile_cons_of_neg (by decide), List.append_nil]
  have hdrop : (w ++ ' ' :: r).dropWhile isKeyChar = ' ' :: r := by
    rw [List.dropWhile_append_of_pos h, List.dropWhile_cons_of_neg (by decide)]
  obtain ⟨c, t, rfl⟩ := List.exists_cons_of_ne_nil hw
  have hne := ne_of_isKeyChar (h c List.mem_cons_self)
  have hquote : ¬(c = '"' || c = '\'') = true := by
    rw [Bool.or_eq_true, decide_eq_true_eq, decide_eq_true_eq, not_or]
    exact ⟨hne '"' (by decide), hne '\'' (by decide)⟩
  rw [List.cons_append] at htake hdrop ⊢
  rw [keyPart?.eq_def]
  simp only [if_neg hquote, htake, hdrop]
  rfl

/-- What starts with a quote is a key like a text is. -/
theorem keyPart?_of_quote (hc : c = '"' ∨ c = '\'') (r : List Char) :
    keyPart? (c :: r) = (lineString? (c :: r)).map fun (k, r) => (String.ofList k, r) := by
  rcases hc with rfl | rfl <;> rfl

/-- A key in quotes is the text it spells. -/
theorem Quoted.keyPart?_append (h : Quoted w k) (r : List Char) :
    keyPart? (w ++ r) = some (k, r) := by
  have hread := h.lineString?_append r
  cases h with
  | basic =>
    rw [List.cons_append] at hread ⊢
    rw [keyPart?_of_quote (Or.inl rfl), hread]
    exact congrArg (fun k => some (k, r)) String.ofList_toList
  | literal =>
    rw [List.cons_append] at hread ⊢
    rw [keyPart?_of_quote (Or.inr rfl), hread]
    exact congrArg (fun k => some (k, r)) String.ofList_toList

/-- **A key is read** in front of a blank. -/
theorem KeyText.keyPart?_append (h : KeyText w k) (r : List Char) :
    keyPart? (w ++ ' ' :: r) = some (k, ' ' :: r) := by
  cases h with
  | bare hne h => exact keyPart?_bare hne h r
  | quoted h => exact h.keyPart?_append (' ' :: r)

/-! ## Other scalars -/

/-- The characters that a scalar may start with, if it is no text. -/
def startsScalar (c : Char) : Bool :=
  c.isDigit || ['+', '-', 't', 'f', 'i', 'n'].contains c

theorem startsScalar_of_isDigit (h : c.isDigit = true) : startsScalar c = true := by
  unfold startsScalar
  rw [h, Bool.true_or]

/-- What is at the front of a scalar behind its sign, if there is one. -/
theorem startsScalar_of_dropSign {d : Char} {t : List Char} (h : d :: t <+: dropSign (c :: r))
    (hd : startsScalar d = true) : startsScalar c = true := by
  unfold dropSign at h
  split at h
  next heq =>
    obtain ⟨rfl, -⟩ := List.cons.inj heq
    rfl
  next heq =>
    obtain ⟨rfl, -⟩ := List.cons.inj heq
    rfl
  next =>
    obtain ⟨rfl, -⟩ := List.cons_prefix_cons.1 h
    exact hd

/-- A run of digits starts with one, underscores or not. -/
theorem exists_cons_of_isDigitRun (h : isDigitRun Char.isDigit s = true) :
    ∃ d t, s = d :: t ∧ d.isDigit = true := by
  unfold isDigitRun at h
  split at h
  next => cases h
  next => exact ⟨_, _, rfl, h⟩
  next => exact ⟨_, _, rfl, (Bool.and_eq_true_iff.1 h).1⟩
  next => exact ⟨_, _, rfl, (Bool.and_eq_true_iff.1 h).1⟩

theorem startsScalar_of_isWhole (hs : s <+: dropSign (c :: r)) (h : isWhole s = true) :
    startsScalar c = true := by
  obtain ⟨d, t, rfl, hd⟩ := exists_cons_of_isDigitRun (Bool.and_eq_true_iff.1 h).1
  exact startsScalar_of_dropSign hs (startsScalar_of_isDigit hd)

/-- An integer starts with a sign or a digit, whatever its base. -/
theorem startsScalar_of_isInteger (h : isInteger (c :: r) = true) : startsScalar c = true := by
  unfold isInteger at h
  split at h
  next heq =>
    obtain ⟨rfl, -⟩ := List.cons.inj heq
    rfl
  next heq =>
    obtain ⟨rfl, -⟩ := List.cons.inj heq
    rfl
  next heq =>
    obtain ⟨rfl, -⟩ := List.cons.inj heq
    rfl
  next => exact startsScalar_of_isWhole (List.prefix_refl _) (Bool.and_eq_true_iff.1 h).1

/-- A float does, too, or with a letter of `inf` and `nan`. -/
theorem startsScalar_of_isFloat (h : isFloat (c :: r) = true) : startsScalar c = true := by
  unfold isFloat at h
  simp only [Bool.or_eq_true, beq_iff_eq] at h
  rcases h with (h | h) | h
  · unfold isUnsignedFloat at h
    simp only [Bool.and_eq_true] at h
    obtain ⟨⟨⟨⟨hwhole, -⟩, -⟩, -⟩, -⟩ := h
    exact startsScalar_of_isWhole
      ((List.takeWhile_prefix _).trans (List.takeWhile_prefix _)) hwhole
  · have hprefix : ['i', 'n', 'f'] <+: dropSign (c :: r) := h ▸ List.prefix_refl _
    exact startsScalar_of_dropSign hprefix rfl
  · have hprefix : ['n', 'a', 'n'] <+: dropSign (c :: r) := h ▸ List.prefix_refl _
    exact startsScalar_of_dropSign hprefix rfl

/-- A fixed number of digits, of which there is at least one, starts with a digit. -/
theorem startsScalar_of_number {lo hi n : Nat} {t : List Char} (hlo : 0 < lo)
    (h : Scan.number lo hi (c :: r) = some (n, t)) : startsScalar c = true := by
  obtain ⟨d, u, heq, hd⟩ := Scan.head_of_number hlo h
  rw [(List.cons.inj heq).1]
  exact startsScalar_of_isDigit hd

theorem startsScalar_of_isTime (h : isTime (c :: r) = true) : startsScalar c = true := by
  cases hdate : afterDate? (c :: r) with
  | some t =>
    obtain ⟨y, hy, -⟩ := Option.bind_eq_some_iff.1 hdate
    exact startsScalar_of_number (by decide) hy
  | none =>
    unfold isTime at h
    rw [hdate] at h
    cases hclock : afterClock? (c :: r) with
    | some t =>
      obtain ⟨s, hs, -⟩ := Option.bind_eq_some_iff.1 hclock
      obtain ⟨n, hn, -⟩ := Option.bind_eq_some_iff.1 hs
      exact startsScalar_of_number (by decide) hn
    | none =>
      have hnone : isClock false (c :: r) = false := by
        unfold isClock
        rw [hclock]
      rw [hnone] at h
      cases h

/-- **The first character of a scalar** tells it from texts, lists and tables. -/
theorem startsScalar_of_isScalar (h : isScalar (c :: r) = true) : startsScalar c = true := by
  unfold isScalar at h
  simp only [Bool.or_eq_true, beq_iff_eq] at h
  rcases h with (((h | h) | h) | h) | h
  · rw [(List.cons.inj h).1]
    rfl
  · rw [(List.cons.inj h).1]
    rfl
  · exact startsScalar_of_isInteger h
  · exact startsScalar_of_isFloat h
  · exact startsScalar_of_isTime h

theorem isScalar_nil : isScalar [] = false := by decide +kernel

/-! ## Words -/

/-- The characters of a word. -/
def inWord (c : Char) : Bool := !isWordEnd c

/-- Leaving out what was taken leaves the rest. -/
theorem drop_takeWhile (p : Char → Bool) (s : List Char) :
    s.drop (s.takeWhile p).length = s.dropWhile p := by
  have hdrop : (s.takeWhile p ++ s.dropWhile p).drop (s.takeWhile p).length = s.dropWhile p :=
    List.drop_left
  rwa [List.takeWhile_append_dropWhile] at hdrop

/-- A word goes on behind a blank only if a date stands in front of it and a time behind. -/
theorem word_eq (s : List Char) :
    word s = match s.dropWhile inWord with
      | ' ' :: r =>
        if afterDate? (s.takeWhile inWord) == some [] &&
            isTime (s.takeWhile inWord ++ ' ' :: r.takeWhile inWord) then
          s.takeWhile inWord ++ ' ' :: r.takeWhile inWord
        else s.takeWhile inWord
      | _ => s.takeWhile inWord := by
  rw [← drop_takeWhile]
  rfl

/-- A run ends where a character does not belong to it. -/
theorem takeWhile_front (h : ∀ c ∈ w, inWord c = true) (hc : inWord c = false) (r : List Char) :
    (w ++ c :: r).takeWhile inWord = w ∧ (w ++ c :: r).dropWhile inWord = c :: r := by
  constructor
  · rw [List.takeWhile_append_of_pos h, List.takeWhile_cons_of_neg (by rw [hc]; decide),
      List.append_nil]
  · rw [List.dropWhile_append_of_pos h, List.dropWhile_cons_of_neg (by rw [hc]; decide)]

/-- A word has no characters in it that end words, but for the blank between a date and a time. -/
theorem word_cases (h : word w = w) :
    (∀ c ∈ w, inWord c = true) ∨
      ∃ day clock, w = day ++ ' ' :: clock ∧ (∀ c ∈ day, inWord c = true) ∧
        (∀ c ∈ clock, inWord c = true) ∧
        (afterDate? day == some [] && isTime (day ++ ' ' :: clock)) = true := by
  have hshort : w.takeWhile inWord = w → ∀ c ∈ w, inWord c = true := by
    intro heq c hc
    rw [← heq] at hc
    exact List.mem_takeWhile_imp hc
  rw [word_eq] at h
  split at h
  next r hdrop =>
    split at h
    next hdate =>
      exact Or.inr ⟨_, _, h.symm, fun c hc => List.mem_takeWhile_imp hc,
        fun c hc => List.mem_takeWhile_imp hc, hdate⟩
    next => exact Or.inl (hshort h)
  next => exact Or.inl (hshort h)

/-- A word is taken off the front of the rest of a text. -/
theorem word_append (h : word w = w) (r : List Char) : word (w ++ '\n' :: r) = w := by
  rcases word_cases h with hall | ⟨day, clock, rfl, hday, hclock, hdate⟩
  · obtain ⟨htake, hdrop⟩ := takeWhile_front hall (show inWord '\n' = false by decide) r
    rw [word_eq, hdrop, htake]
    rfl
  · obtain ⟨htake, hdrop⟩ := takeWhile_front hday (show inWord ' ' = false by decide)
      (clock ++ '\n' :: r)
    obtain ⟨hfirst, -⟩ := takeWhile_front hclock (show inWord '\n' = false by decide) r
    rw [List.append_assoc, List.cons_append, word_eq, hdrop, htake]
    simp only [hfirst]
    exact if_pos hdate

/-- A scalar is passed over to the end of its line. -/
theorem afterScalar?_append (hword : word w = w) (h : isScalar w = true) (r : List Char) :
    afterScalar? (w ++ '\n' :: r) = some ('\n' :: r) := by
  unfold afterScalar?
  simp only [word_append hword, h, if_true, List.drop_left]

/-! ## Values are read -/

/-- A value starts with a quote or with what other scalars start with. -/
theorem ValueText.exists_cons {o : Option String} (h : ValueText w o) :
    ∃ c t, w = c :: t ∧ (c = '"' ∨ c = '\'' ∨ startsScalar c = true) := by
  cases h with
  | text h =>
    cases h with
    | basic => exact ⟨_, _, rfl, Or.inl rfl⟩
    | literal => exact ⟨_, _, rfl, Or.inr (Or.inl rfl)⟩
  | scalar _ h =>
    cases w with
    | nil =>
      rw [isScalar_nil] at h
      cases h
    | cons c t => exact ⟨c, t, rfl, Or.inr (Or.inr (startsScalar_of_isScalar h))⟩

/-- A quoted text is a value, at any depth. -/
theorem Quoted.value?_append {s : String} (h : Quoted w s) (n depth : Nat) (r : List Char) :
    value? n depth (w ++ '\n' :: r) = some (some s, '\n' :: r) := by
  have hread := h.string?_append r
  cases h with
  | basic h =>
    rw [List.cons_append] at hread ⊢
    rw [value?, hread]
    exact congrArg (fun t => some (some t, '\n' :: r)) String.ofList_toList
  | literal h =>
    rw [List.cons_append] at hread ⊢
    rw [value?, hread]
    exact congrArg (fun t => some (some t, '\n' :: r)) String.ofList_toList

/-- No other scalar starts with one of these. -/
theorem ne_of_startsScalar (hc : startsScalar c = true) :
    ∀ d ∈ ['"', '\'', '[', '\x7b', ' ', '\t'], c ≠ d :=
  ne_of_any_eq_false (by decide) hc

/-- What starts like a scalar is read as one and as nothing else. -/
theorem value?_of_startsScalar (hc : startsScalar c = true) (n depth : Nat) (r : List Char) :
    value? n depth (c :: r) = (afterScalar? (c :: r)).map (none, ·) := by
  have hne := ne_of_startsScalar hc
  rw [value?]
  · intro t heq
    exact hne '"' (by decide) (List.cons.inj heq).1
  · intro t heq
    exact hne '\'' (by decide) (List.cons.inj heq).1
  · intro m d t _ _ heq
    exact hne '[' (by decide) (List.cons.inj heq).1
  · intro m d t _ _ heq
    exact hne '\x7b' (by decide) (List.cons.inj heq).1

/-- **A value is read** in front of the end of its line, with any fuel and at any depth. -/
theorem ValueText.value?_append {o : Option String} (h : ValueText w o) (n depth : Nat)
    (r : List Char) : value? n depth (w ++ '\n' :: r) = some (o, '\n' :: r) := by
  cases h with
  | text h => exact h.value?_append n depth r
  | scalar hword h =>
    have hafter := afterScalar?_append hword h r
    cases w with
    | nil =>
      rw [isScalar_nil] at h
      cases h
    | cons c t =>
      rw [List.cons_append] at hafter ⊢
      rw [value?_of_startsScalar (startsScalar_of_isScalar h), hafter]
      rfl

/-! ## Carriage returns -/

/-- Where a number is read, every character is a digit. -/
theorem isSome_hexValue? {base n : Nat} (h : Text.baseValue? base s = some n) :
    ∀ c ∈ s, (hexValue? c).isSome = true := by
  unfold Text.baseValue? at h
  generalize 0 = acc at h
  induction s generalizing acc with
  | nil => exact List.forall_mem_nil _
  | cons d s ih =>
    rw [List.foldlM_cons] at h
    obtain ⟨m, hm, hrest⟩ := Option.bind_eq_some_iff.1 h
    obtain ⟨v, hv, -⟩ := Option.bind_eq_some_iff.1 hm
    exact List.forall_mem_cons.2 ⟨Option.isSome_of_eq_some hv, ih m hrest⟩

/-- There is no carriage return among the digits of an escape. -/
theorem return_not_mem_of_codePoint? (h : codePoint? s = some c) : '\r' ∉ s := by
  obtain ⟨n, hn, -⟩ := Option.bind_eq_some_iff.1 h
  intro hmem
  exact absurd (isSome_hexValue? hn '\r' hmem) (by decide)

/-- An escape has no carriage return in it, also where it spells one. -/
theorem Escape.return_not_mem {e : List Char} (h : Escape e c) : '\r' ∉ e := by
  cases h with
  | letter h =>
    rw [List.mem_singleton]
    rintro rfl
    cases h
  | short h =>
    exact List.not_mem_cons_of_ne_of_not_mem (by decide) (return_not_mem_of_codePoint? h)
  | long h =>
    exact List.not_mem_cons_of_ne_of_not_mem (by decide) (return_not_mem_of_codePoint? h)

/-- A carriage return is not printable. -/
theorem ne_return_of_isPrintable (hc : isPrintable c = true) : '\r' ≠ c := by
  rintro rfl
  exact absurd hc (by decide)

/-- So none stands between double quotes. -/
theorem Basic.return_not_mem (h : Basic w s) : '\r' ∉ w := by
  induction h with
  | nil => exact List.not_mem_nil
  | plain hc _ _ _ ih => exact List.not_mem_cons_of_ne_of_not_mem (ne_return_of_isPrintable hc) ih
  | escape he _ ih =>
    refine List.not_mem_cons_of_ne_of_not_mem (by decide) ?_
    rw [List.mem_append, not_or]
    exact ⟨he.return_not_mem, ih⟩

theorem Quoted.return_not_mem (h : Quoted w k) : '\r' ∉ w := by
  cases h with
  | basic h =>
    rw [List.mem_cons, List.mem_append, List.mem_singleton, not_or, not_or]
    exact ⟨by decide, h.return_not_mem, by decide⟩
  | literal h =>
    rw [List.mem_cons, List.mem_append, List.mem_singleton, not_or, not_or]
    exact ⟨by decide, fun hmem => ne_return_of_isPrintable (h _ hmem).1 rfl, by decide⟩

theorem KeyText.return_not_mem (h : KeyText w k) : '\r' ∉ w := by
  cases h with
  | bare _ h => exact fun hmem => absurd (h _ hmem) (by decide)
  | quoted h => exact h.return_not_mem

/-- No value has one, and line ends can be unified around it. -/
theorem ValueText.return_not_mem {o : Option String} (h : ValueText w o) : '\r' ∉ w := by
  cases h with
  | text h => exact h.return_not_mem
  | scalar hword h =>
    have hnot : inWord '\r' = false := by decide
    intro hmem
    rcases word_cases hword with hall | ⟨day, clock, rfl, hday, hclock, -⟩
    · rw [hall _ hmem] at hnot
      cases hnot
    · rcases List.mem_append.1 hmem with hmem | hmem
      · rw [hday _ hmem] at hnot
        cases hnot
      · rcases List.mem_cons.1 hmem with hmem | hmem
        · exact absurd hmem (by decide)
        · rw [hclock _ hmem] at hnot
          cases hnot

end Stratum.Toml
