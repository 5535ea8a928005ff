import Stratum.Proofs.Records

/-!
# Objects with any scalars in them

What an object may hold beside the texts that are asked for is written by others, and they may spell
a number with a fraction or an exponent. A number that is read as a whole is read just so in front of
anything that does not go on with it. So an object is read with each of its members, whatever their
scalars are.

> `number?_append`: a number is read in front of what closes it.
> `ofBytes?_content`: an object with scalars is read.
-/

namespace Stratum.Json

open Text

variable {s r q : Bytes}

/-! ## Numbers as others spell them -/

/-- Digits are taken as before in front of what closes a number. -/
theorem digits_append (hr : Closes r) (s : Bytes) :
    digits (s ++ r) = ((digits s).1, (digits s).2 ++ r) := by
  obtain ⟨htake, hdrop⟩ := digits_of_closes hr
  induction s with
  | nil =>
    unfold digits
    rw [List.nil_append, htake, hdrop]
    rfl
  | cons b s ih =>
    unfold digits at ih ⊢
    obtain ⟨hfirst, hsecond⟩ := Prod.mk.inj ih
    by_cases hb : isDigit b = true
    · rw [List.cons_append, List.takeWhile_cons_of_pos hb, List.dropWhile_cons_of_pos hb,
        List.takeWhile_cons_of_pos hb, List.dropWhile_cons_of_pos hb, List.map_cons, hfirst,
        hsecond]
      rfl
    · rw [List.cons_append, List.takeWhile_cons_of_neg hb, List.dropWhile_cons_of_neg hb,
        List.takeWhile_cons_of_neg hb, List.dropWhile_cons_of_neg hb]
      rfl

/-- So is the whole part. -/
theorem whole?_append (hr : Closes r) {ds : List Char} (h : whole? s = some (ds, q)) :
    whole? (s ++ r) = some (ds, q ++ r) := by
  cases s with
  | nil => cases h
  | cons b s =>
    have hdigits := digits_append hr (b :: s)
    unfold whole? at h
    rw [List.cons_append] at hdigits ⊢
    unfold whole?
    dsimp only at h ⊢
    by_cases hzero : b = ascii '0'
    · rw [if_pos hzero] at h ⊢
      cases h
      rfl
    · rw [if_neg hzero] at h ⊢
      by_cases hb : isDigit b = true
      · rw [if_pos hb] at h ⊢
        rw [hdigits, Option.some.inj h]
      · rw [if_neg hb] at h
        cases h

/-- A fraction that was read is read. -/
theorem fraction?_append (hr : Closes r) {f : Bool} (h : fraction? s = some (f, q)) :
    fraction? (s ++ r) = some (f, q ++ r) := by
  cases s with
  | nil =>
    cases h
    exact fraction?_of_closes hr
  | cons b s =>
    have hdigits := digits_append hr s
    unfold fraction? at h
    rw [List.cons_append]
    unfold fraction?
    dsimp only at h ⊢
    by_cases hpoint : b = ascii '.'
    · rw [if_pos hpoint] at h ⊢
      rw [hdigits]
      split at h
      next => cases h
      next hempty =>
        rw [if_neg hempty]
        cases h
        rfl
    · rw [if_neg hpoint] at h ⊢
      cases h
      rfl

/-- The sign of an exponent is taken off as before. -/
theorem dropSign_append (hr : Closes r) (s : Bytes) : dropSign (s ++ r) = dropSign s ++ r := by
  cases s with
  | nil =>
    cases r with
    | nil => rfl
    | cons b r =>
      have hb : ¬(b = ascii '+' || b = ascii '-') = true := by
        rcases hr b rfl with rfl | rfl | rfl <;> decide
      exact if_neg hb
  | cons b s =>
    rw [List.cons_append]
    unfold dropSign
    dsimp only
    split <;> rfl

/-- An exponent that was read is read. -/
theorem exponent?_append (hr : Closes r) {f : Bool} (h : exponent? s = some (f, q)) :
    exponent? (s ++ r) = some (f, q ++ r) := by
  cases s with
  | nil =>
    cases h
    exact exponent?_of_closes hr
  | cons b s =>
    have hdigits := digits_append hr (dropSign s)
    unfold exponent? at h
    rw [List.cons_append]
    unfold exponent?
    dsimp only at h ⊢
    by_cases hmark : (b = ascii 'e' || b = ascii 'E') = true
    · rw [if_pos hmark] at h ⊢
      rw [dropSign_append hr, hdigits]
      split at h
      next => cases h
      next hempty =>
        rw [if_neg hempty]
        cases h
        rfl
    · rw [if_neg hmark] at h ⊢
      cases h
      rfl

/-- **A number is cut alike** at the end of a text and in front of what closes it. -/
theorem unsigned?_append (hr : Closes r) {negative : Bool} {n : Number}
    (h : unsigned? negative s = some (n, q)) : unsigned? negative (s ++ r) = some (n, q ++ r) := by
  unfold unsigned? at h ⊢
  obtain ⟨⟨ds, s₁⟩, hwhole, h⟩ := Option.bind_eq_some_iff.1 h
  obtain ⟨⟨f, s₂⟩, hfraction, h⟩ := Option.bind_eq_some_iff.1 h
  obtain ⟨⟨e, s₃⟩, hexponent, h⟩ := Option.bind_eq_some_iff.1 h
  cases h
  simp only [whole?_append hr hwhole, fraction?_append hr hfraction, exponent?_append hr hexponent,
    Option.bind_eq_bind, Option.bind_some]
  rfl

/-- **A number is read** in front of what closes it. -/
theorem number?_append (hr : Closes r) {n : Number} (h : number? s = some (n, q)) :
    number? (s ++ r) = some (n, q ++ r) := by
  cases s with
  | nil => cases h
  | cons b s =>
    unfold number? at h
    rw [List.cons_append]
    unfold number?
    dsimp only at h ⊢
    by_cases hminus : b = ascii '-'
    · rw [if_pos hminus] at h ⊢
      exact unsigned?_append hr h
    · rw [if_neg hminus] at h ⊢
      exact unsigned?_append hr h

/-- A number starts with its sign or a digit. -/
theorem exists_cons_of_number? {n : Number} (h : number? s = some (n, q)) :
    ∃ b t, s = b :: t ∧ (b = ascii '-' ∨ isDigit b = true) := by
  cases s with
  | nil => cases h
  | cons b s =>
    refine ⟨b, s, rfl, ?_⟩
    unfold number? at h
    dsimp only at h
    by_cases hminus : b = ascii '-'
    · exact Or.inl hminus
    · rw [if_neg hminus] at h
      obtain ⟨⟨ds, t⟩, hwhole, -⟩ := Option.bind_eq_some_iff.1 h
      unfold whole? at hwhole
      dsimp only at hwhole
      by_cases hzero : b = ascii '0'
      · rw [hzero]
        exact Or.inr (by decide)
      · rw [if_neg hzero] at hwhole
        by_cases hb : isDigit b = true
        · exact Or.inr hb
        · rw [if_neg hb] at hwhole
          cases hwhole

/-! ## Members with scalars -/

/-- The text of a scalar. -/
inductive ScalarText : Bytes → Json → Prop
  | null : ScalarText "null".utf8 null
  | bool (b : Bool) : ScalarText (write (bool b)) (bool b)
  | number {s : Bytes} {n : Number} (h : number? s = some (n, [])) : ScalarText s (number n)
  | string {ps : List Piece} (h : ∀ p ∈ ps, p.Proper) :
    ScalarText (writeString ps) (string (ps.map Piece.settled))

/-- A scalar is cut into its tokens. -/
theorem ScalarText.cuts {v : Json} (h : ScalarText s v) (hr : Closes r) :
    Cuts (s ++ r) v.tokens r := by
  cases h with
  | null => exact cuts_null
  | bool b =>
    cases b with
    | true => exact cuts_true
    | false => exact cuts_false
  | number h =>
    have hread := number?_append hr h
    obtain ⟨b, t, rfl, hb⟩ := exists_cons_of_number? h
    obtain ⟨hspace, hcut⟩ := cut?_of_number hb
    rw [List.cons_append] at hread ⊢
    refine cuts_of_cut? hspace ?_
    rw [hcut, hread]
    rfl
  | string h => exact cuts_writeString h

/-- A member of an object whose value is a scalar. -/
structure Member where
  key : String
  value : Json
  keyPieces : List Piece
  valueText : Bytes
  keyProper : ∀ p ∈ keyPieces, p.Proper
  keySpelled : stringText? keyPieces = some key
  valueSpelled : ScalarText valueText value

namespace Member

/-- The key with the text of its value, if it is one. -/
def entry (m : Member) : String × Option String := (m.key, m.value.text?)

/-- The member as it is read. -/
def settled (m : Member) : List Piece × Json := (m.keyPieces.map Piece.settled, m.value)

/-- The text of a member. -/
def written (m : Member) : Bytes := writeString m.keyPieces ++ ascii ':' :: m.valueText

/-- The member of a text, as this library writes it. -/
def ofText (key text : String) : Member where
  key := key
  value := (Json.ofText text).settled
  keyPieces := piecesOf key
  valueText := (Json.ofText text).write
  keyProper := fun _ hp => proper_of_mem_piecesOf hp
  keySpelled := stringText?_piecesOf key
  valueSpelled := .string fun _ hp => proper_of_mem_piecesOf hp

theorem entry_ofText (key text : String) : (ofText key text).entry = (key, some text) := by
  unfold entry
  rw [show (ofText key text).value.text? = some text from stores_text text _ (.same _)]
  rfl

/-- The text of members with commas between them. -/
def joined : List Member → Bytes
  | [] => []
  | [m] => m.written
  | m :: ms => m.written ++ ascii ',' :: joined ms

/-- The text of an object. -/
def content (ms : List Member) : Bytes := ascii '\x7b' :: joined ms ++ [ascii '\x7d']

end Member

/-- A member is cut into its key, a colon and its value. -/
theorem cuts_written (m : Member) (hr : Closes r) :
    Cuts (m.written ++ r) (memberTokens [m.settled]) r := by
  unfold Member.written
  rw [List.append_assoc, List.cons_append]
  have hcolon : Cuts (ascii ':' :: (m.valueText ++ r)) [.colon] _ := cuts_mark (by decide) rfl
  exact (cuts_writeString m.keyProper).trans (hcolon.trans (m.valueSpelled.cuts hr))

/-- Members are cut with commas in between. -/
theorem cuts_joined : ∀ (ms : List Member) {r : Bytes}, Closes r →
    Cuts (Member.joined ms ++ r) (memberTokens (ms.map Member.settled)) r
  | [], r, _ => by
    show tokens? r = (tokens? r).map id
    rw [Option.map_id_fun, id]
  | [m], r, hr => cuts_written m hr
  | m :: n :: ms, r, hr => by
    have hfirst := cuts_written m (closes_cons (Or.inl rfl) (Member.joined (n :: ms) ++ r))
    have hcomma : Cuts (ascii ',' :: (Member.joined (n :: ms) ++ r)) [.comma] _ :=
      cuts_mark (by decide) rfl
    have htokens : memberTokens ((m :: n :: ms).map Member.settled) =
        memberTokens [m.settled] ++ ([.comma] ++ memberTokens ((n :: ms).map Member.settled)) := by
      rw [List.map_cons, List.map_cons, Member.settled, memberTokens_cons, memberTokens]
      rfl
    rw [Member.joined, List.append_assoc, List.cons_append, htokens]
    · exact hfirst.trans (hcomma.trans (cuts_joined (n :: ms) hr))
    · exact List.cons_ne_nil n ms

/-- **An object with scalars is read** with each of its members. -/
theorem ofBytes?_content (ms : List Member) :
    ofBytes? (Member.content ms) = some (object (ms.map Member.settled)) := by
  have hopen : Cuts (ascii '\x7b' :: (Member.joined ms ++ [ascii '\x7d'])) [.openObject] _ :=
    cuts_mark (by decide) rfl
  have hclose : Cuts [ascii '\x7d'] [.closeObject] [] := cuts_mark (by decide) rfl
  have hinside := cuts_joined ms (closes_cons (Or.inr (Or.inr rfl)) [])
  exact ofBytes?_of_cuts (hopen.trans (hinside.trans hclose))

/-- The names and values of the members are those that were written. -/
theorem named?_map_settled (ms : List Member) :
    named? (ms.map Member.settled) = some (ms.map fun m => (m.key, m.value)) := by
  unfold named?
  induction ms with
  | nil => rfl
  | cons m ms ih =>
    rw [List.map_cons, List.mapM_cons, ih, Member.settled]
    dsimp only
    rw [stringText?_settled, m.keySpelled]
    rfl

end Stratum.Json
