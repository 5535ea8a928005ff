import Mathlib.Data.List.TakeWhile
import Stratum.Proofs.Decoding
import Stratum.Text.Blank
import Stratum.Text.Lines

/-!
# Cutting into lines

Every reader of this library goes by lines, and a line is found before it is decoded. So where a
byte string is cut, put together or changed at its line feeds, what becomes of its lines is said
here, and a proof about a reader need not go through its bytes.

> `ofBytes_append`, `ofBytes_of_feed`: the lines of two pieces, and the first line of one.
> `byLines`: what is shown of one line, and of one line in front of others.
> `decode?_of_ends`: what ends a line is text, and stays behind what it ends.
-/

namespace Stratum.Text

/-! ## First and last characters -/

/-- A text begins as its first part does. -/
theorem head?_toList_append {front back : String} {c : Char}
    (h : front.toList.head? = some c) : (front ++ back).toList.head? = some c := by
  rw [String.toList_append, List.head?_append, h]
  rfl

/-- A text ends as its last part does. -/
theorem getLast?_toList_append {front back : String} {c : Char}
    (h : back.toList.getLast? = some c) : (front ++ back).toList.getLast? = some c := by
  rw [String.toList_append, List.getLast?_append, h]
  rfl

/-! ## Blanks at the end -/

theorem dropWhile_eq_self {p : Char → Bool} {s : List Char} (h : ∀ c ∈ s, p c = false) :
    s.dropWhile p = s := by
  cases s with
  | nil => rfl
  | cons c r =>
    exact List.dropWhile_cons_of_neg (by rw [h c List.mem_cons_self]; exact Bool.false_ne_true)

theorem dropEndWhile_eq_self {p : Char → Bool} {s : List Char} (h : ∀ c ∈ s, p c = false) :
    dropEndWhile p s = s := by
  unfold dropEndWhile
  rw [dropWhile_eq_self fun c hc => h c (List.mem_reverse.1 hc), List.reverse_reverse]

/-- What is taken off is at the end. -/
theorem prefix_dropEndWhile (p : Char → Bool) (s : List Char) : dropEndWhile p s <+: s := by
  unfold dropEndWhile
  rw [← List.reverse_suffix, List.reverse_reverse]
  exact List.dropWhile_suffix p

/-- What is left does not end with a character that is dropped. -/
theorem getLast?_dropEndWhile {p : Char → Bool} {s : List Char} {c : Char}
    (h : (dropEndWhile p s).getLast? = some c) : p c = false := by
  unfold dropEndWhile at h
  rw [List.getLast?_reverse] at h
  have hnot := List.head?_dropWhile_not p s.reverse
  rw [h] at hnot
  exact hnot

/-- All of it is taken off, whatever stands in front. -/
theorem dropEndWhile_append_of_forall {p : Char → Bool} {t : List Char} (ht : ∀ c ∈ t, p c = true)
    (s : List Char) : dropEndWhile p (s ++ t) = dropEndWhile p s := by
  have hdropped : t.reverse.dropWhile p = [] :=
    List.dropWhile_eq_nil_iff.2 fun c hc => ht c (List.mem_reverse.1 hc)
  unfold dropEndWhile
  rw [List.reverse_append, List.dropWhile_append, hdropped]
  rfl

/-- Blanks behind a text are trimmed off. -/
theorem trim_append_of_forall {t : List Char} (ht : ∀ c ∈ t, isBlank c = true) (s : List Char) :
    trim (s ++ t) = trim s := by
  unfold trim skipBlank
  rw [List.dropWhile_append]
  split
  next hs =>
    rw [List.isEmpty_iff.1 hs, List.dropWhile_eq_nil_iff.2 ht]
  next => exact dropEndWhile_append_of_forall ht _

namespace Line

/-! ## The lines of a byte string -/

/-- Bytes that end with a line end, or none at all: what follows them starts a line. -/
def EndsLine (front : Bytes) : Prop := front = [] ∨ front.getLast? = some feed

/-- A byte that is no line end belongs to the first line. -/
theorem ofBytes_cons_of_ne {b : UInt8} (h : b ≠ feed) (r : Bytes) :
    ofBytes (b :: r) = extend b (ofBytes r) := by
  rw [ofBytes, if_neg h]

/-- A line end in front ends an empty line. -/
theorem ofBytes_feed (r : Bytes) : ofBytes (feed :: r) = ⟨[], true⟩ :: ofBytes r := by
  rw [ofBytes, if_pos rfl]

/-- Only nothing has no lines. -/
theorem ofBytes_eq_nil_iff {s : Bytes} : ofBytes s = [] ↔ s = [] := by
  cases s with
  | nil => exact iff_of_true rfl rfl
  | cons b r =>
    refine iff_of_false ?_ (List.cons_ne_nil b r)
    by_cases h : b = feed
    · rw [h, ofBytes_feed]
      exact List.cons_ne_nil _ _
    · rw [ofBytes_cons_of_ne h]
      unfold extend
      split
      · exact List.cons_ne_nil _ _
      · exact List.cons_ne_nil _ _

/-- A line end separates the lines before it from those behind it. -/
theorem ofBytes_append {front : Bytes} (h : EndsLine front) (s : Bytes) :
    ofBytes (front ++ s) = ofBytes front ++ ofBytes s := by
  induction front with
  | nil => rfl
  | cons b r ih =>
    have hr : EndsLine r := by
      rcases h with h | h
      · cases h
      · cases r with
        | nil => exact Or.inl rfl
        | cons c r => exact Or.inr (by rwa [List.getLast?_cons_cons] at h)
    rw [List.cons_append]
    by_cases hb : b = feed
    · rw [hb, ofBytes_feed, ofBytes_feed, ih hr, List.cons_append]
    · rw [ofBytes_cons_of_ne hb, ofBytes_cons_of_ne hb, ih hr]
      -- Behind a byte that is no line feed there must be one, so there is a line to put it in.
      cases hlines : ofBytes r with
      | nil =>
        rw [ofBytes_eq_nil_iff] at hlines
        rw [hlines] at h
        rcases h with h | h
        · cases h
        · exact absurd (Option.some.inj h) hb
      | cons l ls => rfl

/-- Without a line feed there is one line, and it has no end. -/
theorem ofBytes_of_unended {s : Bytes} (hs : s ≠ []) (h : ∀ b ∈ s, b ≠ feed) :
    ofBytes s = [⟨s, false⟩] := by
  induction s with
  | nil => exact absurd rfl hs
  | cons b r ih =>
    rw [ofBytes_cons_of_ne (h b List.mem_cons_self)]
    cases r with
    | nil => rfl
    | cons c r =>
      rw [ih (List.cons_ne_nil c r) fun d hd => h d (List.mem_cons_of_mem b hd)]
      rfl

/-- The first line feed ends the first line. -/
theorem ofBytes_of_feed {s : Bytes} (h : ∀ b ∈ s, b ≠ feed) (r : Bytes) :
    ofBytes (s ++ feed :: r) = ⟨s, true⟩ :: ofBytes r := by
  induction s with
  | nil => exact ofBytes_feed r
  | cons b s ih =>
    rw [List.cons_append, ofBytes_cons_of_ne (h b List.mem_cons_self),
      ih fun c hc => h c (List.mem_cons_of_mem b hc)]
    rfl

/-- **Line by line.** What holds of nothing, of a line that has no line feed, and of a line that has one
as soon as it holds of the bytes behind it, holds of all bytes. -/
theorem byLines {P : Bytes → Prop} (nil : P [])
    (unended : ∀ s, s ≠ [] → (∀ b ∈ s, b ≠ feed) → P s)
    (ended : ∀ s r, (∀ b ∈ s, b ≠ feed) → P r → P (s ++ feed :: r)) (content : Bytes) :
    P content := by
  -- A line feed is taken away each time, with all that is before it.
  induction hlength : content.length using Nat.strong_induction_on generalizing content with
  | _ n ih =>
    by_cases hfeed : feed ∈ content
    · obtain ⟨s, r, rfl, hs⟩ := List.eq_append_cons_of_mem hfeed
      have hshorter : r.length < n := by
        rw [← hlength, List.length_append, List.length_cons]
        omega
      exact ended s r (fun b hb heq => hs (heq ▸ hb)) (ih _ hshorter r rfl)
    · cases content with
      | nil => exact nil
      | cons b r =>
        exact unended (b :: r) (List.cons_ne_nil b r) fun c hc heq => hfeed (heq ▸ hc)

/-- No line feed is left in a line. -/
theorem feed_not_mem_body {s : Bytes} {l : Line} (h : l ∈ ofBytes s) : feed ∉ l.body := by
  induction s generalizing l with
  | nil => cases h
  | cons b r ih =>
    by_cases hb : b = feed
    · rw [hb, ofBytes_feed] at h
      rcases List.mem_cons.1 h with rfl | h
      · exact List.not_mem_nil
      · exact ih h
    · rw [ofBytes_cons_of_ne hb] at h
      cases hlines : ofBytes r with
      | nil =>
        rw [hlines] at h
        rw [List.mem_singleton.1 h]
        exact fun hmem => hb (List.mem_singleton.1 hmem).symm
      | cons first ls =>
        rw [hlines] at h ih
        rcases List.mem_cons.1 h with rfl | h
        · intro hmem
          rcases List.mem_cons.1 hmem with hmem | hmem
          · exact hb hmem.symm
          · exact ih List.mem_cons_self hmem
        · exact ih (List.mem_cons_of_mem first h)

/-- A text without line feeds is written without them. -/
theorem ne_feed_of_mem_encode {t : List Char} (h : '\n' ∉ t) : ∀ b ∈ Utf8.encode t, b ≠ feed := by
  intro b hb hfeed
  exact h (Utf8.mem_of_mem_encode (b := feed) (by decide) (hfeed ▸ hb))

theorem first_cons_of_ne {b : UInt8} (h : b ≠ feed) (r : Bytes) :
    first (b :: r) = b :: first r := by
  unfold first
  rw [ofBytes_cons_of_ne h]
  cases ofBytes r with
  | nil => rfl
  | cons l ls =>
    show (if l.ended then b :: l.body ++ [feed] else b :: l.body) =
      b :: (if l.ended then l.body ++ [feed] else l.body)
    cases l.ended with
    | false => rfl
    | true => rfl

/-- Behind a line feed nothing belongs to the first line. -/
theorem first_append_feed (front rest : Bytes) :
    first (front ++ feed :: rest) = first (front ++ [feed]) := by
  induction front with
  | nil =>
    show first (feed :: rest) = first [feed]
    unfold first
    rw [ofBytes_feed, ofBytes_feed]
    rfl
  | cons b front ih =>
    rw [List.cons_append, List.cons_append]
    by_cases hb : b = feed
    · unfold first
      rw [hb, ofBytes_feed, ofBytes_feed]
      rfl
    · rw [first_cons_of_ne hb, first_cons_of_ne hb, ih]

/-! ## What ends a line -/

/-- Bytes that do nothing but end lines. -/
def Ends (s : Bytes) : Prop := ∀ b ∈ s, b = carriage ∨ b = feed

/-- What ends a line starts with a byte of ASCII. -/
theorem Ends.lt {b : UInt8} {s : Bytes} (h : Ends (b :: s)) : b < 0x80 := by
  rcases h b List.mem_cons_self with rfl | rfl
  · decide
  · decide

/-- It is decoded to returns and line ends. -/
theorem decode?_of_ends {s : Bytes} (h : Ends s) :
    ∃ t, Utf8.decode? s = some t ∧ ∀ c ∈ t, c = '\r' ∨ c = '\n' := by
  induction s with
  | nil => exact ⟨[], by rw [Utf8.decode?], List.forall_mem_nil _⟩
  | cons b s ih =>
    obtain ⟨t, ht, hends⟩ := ih fun d hd => h d (List.mem_cons_of_mem b hd)
    refine ⟨Char.ofNat b.toNat :: t, by rw [Utf8.decode?_cons h.lt, ht]; rfl, ?_⟩
    intro c hc
    rcases List.mem_cons.1 hc with rfl | hc
    · rcases h b List.mem_cons_self with rfl | rfl
      · exact Or.inl rfl
      · exact Or.inr rfl
    · exact hends c hc

/-- What ends a line stands behind what is decoded of it, whether that is text or not. -/
theorem decode?_append_ends {ends : Bytes} (h : Ends ends) (s : Bytes) :
    ∃ t, (∀ c ∈ t, c = '\r' ∨ c = '\n') ∧
      Utf8.decode? (s ++ ends) = (Utf8.decode? s).map (· ++ t) ∧
      Utf8.decodeLossy (s ++ ends) = Utf8.decodeLossy s ++ t := by
  obtain ⟨t, ht, hends⟩ := decode?_of_ends h
  refine ⟨t, hends, ?_, ?_⟩
  · cases ends with
    | nil =>
      rw [Utf8.decode?] at ht
      cases ht
      rw [List.append_nil]
      cases Utf8.decode? s <;> simp
    | cons b ends =>
      rw [Utf8.decode?_append h.lt, ht]
      cases Utf8.decode? s <;> rfl
  · rw [← Utf8.decodeLossy_of_decode? ht]
    cases ends with
    | nil => rw [List.append_nil, Utf8.decodeLossy, List.append_nil]
    | cons b ends => exact Utf8.decodeLossy_append h.lt s ends

end Line

end Stratum.Text
