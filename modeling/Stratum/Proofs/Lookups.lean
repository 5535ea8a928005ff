import Stratum.Proofs.Settings

/-!
# Look-ups in any file

A server configuration need not be a list of settings, nor even text. Of any content the first line
that is no text or starts with the field decides: a line that is no text ends the look-up, and of one
that starts with the field what counts begins one byte behind it. Nothing begins there if the line
is over or if that byte is in the middle of a character.

> `map_content_ofBytes`: the lines of a content are what is between its line feeds.
> `beginsAt_append_iff`: what begins one byte behind a text.
> `read_of_content`: what is read of a field, whatever is in the file.
-/

namespace Stratum

namespace Text

/-! ## Lines as pieces -/

/-- What is before a line feed, without one carriage return at its end. -/
def withoutReturn (piece : Bytes) : Bytes :=
  if piece.getLast? = some Line.carriage then piece.dropLast else piece

/-- The pieces between the line feeds of a content, without one carriage return before each of these.
The piece behind the last line feed is as it is, and no line if it is empty. -/
def linesOf (content : Bytes) : List Bytes :=
  let pieces := content.splitOn Line.feed
  pieces.dropLast.map withoutReturn ++ pieces.getLast?.toList.filter (· ≠ [])

/-- A line that ends loses its return. -/
theorem content_of_ended (piece : Bytes) : (⟨piece, true⟩ : Line).content = withoutReturn piece := by
  simp [Line.content, withoutReturn]

/-- What has no line end is one line, or none if it is empty. -/
theorem linesOf_of_unended {s : Bytes} (h : Line.feed ∉ s) : linesOf s = [s].filter (· ≠ []) := by
  have hpieces : s.splitOn Line.feed = [s] := by
    rw [List.splitOn_eq_splitOnP]
    exact List.splitOnP_eq_singleton fun b hb => beq_false_of_ne fun hfeed => h (hfeed ▸ hb)
  unfold linesOf
  rw [hpieces]
  rfl

/-- The first line goes up to the first line end. -/
theorem linesOf_of_feed {s : Bytes} (h : Line.feed ∉ s) (r : Bytes) :
    linesOf (s ++ Line.feed :: r) = withoutReturn s :: linesOf r := by
  have hpieces : (s ++ Line.feed :: r).splitOn Line.feed = s :: r.splitOn Line.feed := by
    have hfeed : (Line.feed == Line.feed) = true := rfl
    have hplain : ∀ b ∈ s, (b == Line.feed) = false := fun b hb =>
      beq_false_of_ne fun heq => h (heq ▸ hb)
    rw [List.splitOn_eq_splitOnP, List.splitOnP_append_cons (p := (· == Line.feed)) s r hfeed,
      List.splitOnP_eq_singleton hplain]
    rfl
  have hne : r.splitOn Line.feed ≠ [] := List.splitOn_ne_nil _ _
  unfold linesOf
  rw [hpieces]
  dsimp only
  rw [List.dropLast_cons_of_ne_nil hne, List.getLast?_cons_of_ne_nil hne]
  rfl

/-- **The lines of a content are what is between its line feeds.** -/
theorem map_content_ofBytes (content : Bytes) :
    (Line.ofBytes content).map Line.content = linesOf content := by
  induction content using Line.byLines with
  | nil => rfl
  | unended s hne hs =>
    rw [linesOf_of_unended fun hfeed => hs _ hfeed rfl, Line.ofBytes_of_unended hne hs,
      List.filter_cons_of_pos (by simp [hne])]
    rfl
  | ended s r hs ih =>
    rw [Line.ofBytes_of_feed hs, linesOf_of_feed fun hfeed => hs _ hfeed rfl, List.map_cons,
      content_of_ended, ih]

/-- Lines in front of a line end do not depend on what follows. -/
theorem linesOf_append {front : Bytes} (h : Line.EndsLine front) (s : Bytes) :
    linesOf (front ++ s) = linesOf front ++ linesOf s := by
  rw [← map_content_ofBytes, Line.ofBytes_append h, List.map_append, map_content_ofBytes,
    map_content_ofBytes]

/-! ## Places in a text -/

/-- What is left of a text behind its first `n` bytes. Nothing is if there are not so many, nor if the
last of them does not end a character. -/
def BeginsAt (n : Nat) (text rest : List Char) : Prop :=
  ∃ front, text = front ++ rest ∧ (Utf8.encode front).length = n

theorem length_encode_cons (c : Char) (s : List Char) :
    (Utf8.encode (c :: s)).length = c.utf8Size + (Utf8.encode s).length := by
  unfold Utf8.encode
  rw [List.flatMap_cons, List.length_append, String.length_utf8EncodeChar]

/-- Lengths in bytes add up. -/
theorem length_encode_append (s t : List Char) :
    (Utf8.encode (s ++ t)).length = (Utf8.encode s).length + (Utf8.encode t).length := by
  unfold Utf8.encode
  rw [List.flatMap_append, List.length_append]

theorem beginsAt_one_iff {text rest : List Char} :
    BeginsAt 1 text rest ↔ ∃ c, text = c :: rest ∧ c.utf8Size = 1 := by
  constructor
  · rintro ⟨front, rfl, hlength⟩
    cases front with
    | nil => cases hlength
    | cons c front =>
      rw [length_encode_cons] at hlength
      cases front with
      | nil => exact ⟨c, rfl, hlength⟩
      | cons d front =>
        rw [length_encode_cons] at hlength
        have hc := c.utf8Size_pos
        have hd := d.utf8Size_pos
        omega
  · rintro ⟨c, rfl, hc⟩
    exact ⟨[c], rfl, by rw [length_encode_cons, hc]; rfl⟩

/-- **What begins one byte behind a text** begins one byte from where the text ends. -/
theorem beginsAt_append_iff {front text rest : List Char} :
    BeginsAt ((Utf8.encode front).length + 1) (front ++ text) rest ↔ BeginsAt 1 text rest := by
  constructor
  · rintro ⟨s, hsplit, hlength⟩
    rcases List.append_eq_append_iff.1 hsplit with ⟨t, rfl, htext⟩ | ⟨t, rfl, -⟩
    · rw [length_encode_append] at hlength
      exact ⟨t, htext, by omega⟩
    · -- Less than the text has fewer bytes.
      rw [length_encode_append] at hlength
      omega
  · rintro ⟨s, rfl, hlength⟩
    exact ⟨front ++ s, (List.append_assoc _ _ _).symm, by rw [length_encode_append, hlength]⟩

end Text

open Text

/-! ## What a line decides -/

/-- Whether a line ends the look-up of a field: it is no text, or it starts with the field. -/
def Stops (field : String) (line : Bytes) : Prop :=
  ∀ text ∈ Utf8.decode? line, field.toList <+: text

instance (field : String) (line : Bytes) : Decidable (Stops field line) :=
  Option.decidableForallMem (Utf8.decode? line)

/-- What comes of looking up a field if a line ends the look-up. -/
inductive Decides (field : String) (line : Bytes) : Except Failure String → Prop
  | notUtf8 (h : Utf8.decode? line = none) : Decides field line (.error (.io .notUtf8))
  | value {text rest : List Char} (htext : Utf8.decode? line = some text)
    (hfield : field.toList <+: text)
    (hrest : BeginsAt ((Utf8.encode field.toList).length + 1) text rest) :
    Decides field line (.ok (String.ofList (trim rest)))
  | noValue {text : List Char} (htext : Utf8.decode? line = some text)
    (hfield : field.toList <+: text)
    (hrest : ∀ rest, ¬BeginsAt ((Utf8.encode field.toList).length + 1) text rest) :
    Decides field line (.ok "")

/-- A line decides one thing only. -/
theorem Decides.unique {field : String} {line : Bytes} {r r' : Except Failure String}
    (h : Decides field line r) (h' : Decides field line r') : r = r' := by
  cases h with
  | notUtf8 h =>
    cases h' with
    | notUtf8 _ => rfl
    | value htext _ _ => cases h.symm.trans htext
    | noValue htext _ _ => cases h.symm.trans htext
  | value htext hfield hrest =>
    cases h' with
    | notUtf8 h => cases h.symm.trans htext
    | value htext' _ hrest' =>
      cases htext.symm.trans htext'
      obtain ⟨behind, rfl⟩ := hfield
      obtain ⟨c, rfl, -⟩ := beginsAt_one_iff.1 (beginsAt_append_iff.1 hrest)
      obtain ⟨d, heq, -⟩ := beginsAt_one_iff.1 (beginsAt_append_iff.1 hrest')
      rw [(List.cons.inj heq).2]
    | noValue htext' _ hnone =>
      cases htext.symm.trans htext'
      exact absurd hrest (hnone _)
  | noValue htext hfield hnone =>
    cases h' with
    | notUtf8 h => cases h.symm.trans htext
    | value htext' _ hrest =>
      cases htext.symm.trans htext'
      exact absurd hrest (hnone _)
    | noValue _ _ _ => rfl

/-- What is taken for the value is what begins one byte from there. -/
theorem fieldValue_of_beginsAt {text rest : List Char} (h : BeginsAt 1 text rest) :
    fieldValue text = trim rest := by
  obtain ⟨c, rfl, hc⟩ := beginsAt_one_iff.1 h
  exact if_pos hc

/-- Where no character begins at the second byte, the value is empty. -/
theorem fieldValue_of_not_beginsAt {text : List Char} (h : ∀ rest, ¬BeginsAt 1 text rest) :
    fieldValue text = [] := by
  cases text with
  | nil => rfl
  | cons c rest =>
    have hc : c.utf8Size ≠ 1 := fun hc => h rest (beginsAt_one_iff.2 ⟨c, rfl, hc⟩)
    exact if_neg hc

section

variable {c : ServerConf} {field : String} {content : Bytes}

/-- A line that does not end a look-up is passed over. -/
theorem lookupField_append {before : List Line} (h : ∀ l ∈ before, ¬Stops field l.content)
    (ls : List Line) : lookupField field.toList (before ++ ls) = lookupField field.toList ls := by
  induction before with
  | nil => rfl
  | cons l before ih =>
    obtain ⟨text, hnot⟩ := not_forall.1 (h l List.mem_cons_self)
    obtain ⟨htext, hnot⟩ := Classical.not_imp.1 hnot
    rw [List.cons_append, lookupField, htext]
    dsimp only
    rw [if_neg fun hprefix => hnot (List.isPrefixOf_iff_prefix.1 hprefix)]
    exact ih fun d hd => h d (List.mem_cons_of_mem l hd)

/-- **The first line that ends a look-up decides what comes of it.** -/
theorem decides_ofContent {before after : List Bytes} {line : Bytes}
    (hlines : linesOf content = before ++ line :: after) (hbefore : ∀ b ∈ before, ¬Stops field b)
    (hline : Stops field line) : Decides field line (c.ofContent field content) := by
  rw [← map_content_ofBytes] at hlines
  obtain ⟨ls, ls', hsplit, rfl, hrest⟩ := List.map_eq_append_iff.1 hlines
  obtain ⟨l, ls', rfl, rfl, -⟩ := List.map_eq_cons_iff.1 hrest
  have hpassed : ∀ d ∈ ls, ¬Stops field d.content := fun d hd => hbefore _ (List.mem_map_of_mem hd)
  unfold ServerConf.ofContent
  rw [hsplit, lookupField_append hpassed, lookupField]
  cases htext : Utf8.decode? l.content with
  | none => exact .notUtf8 htext
  | some text =>
    have hprefix : field.toList <+: text := hline text htext
    dsimp only
    rw [if_pos (List.isPrefixOf_iff_prefix.2 hprefix)]
    obtain ⟨behind, rfl⟩ := hprefix
    rw [List.drop_left]
    by_cases hrest : ∃ rest, BeginsAt 1 behind rest
    · obtain ⟨rest, hrest⟩ := hrest
      rw [fieldValue_of_beginsAt hrest]
      exact .value htext (List.prefix_append _ _) (beginsAt_append_iff.2 hrest)
    · rw [fieldValue_of_not_beginsAt (not_exists.1 hrest)]
      exact .noValue htext (List.prefix_append _ _) fun rest hbegins =>
        hrest ⟨rest, beginsAt_append_iff.1 hbegins⟩

/-- Without a line that stops it, a lookup finds nothing. -/
theorem ofContent_of_not_stops (h : ∀ line ∈ linesOf content, ¬Stops field line) :
    c.ofContent field content = .error (.fieldNotFound c.fqrn field) := by
  rw [← map_content_ofBytes] at h
  have hlines : ∀ l ∈ Line.ofBytes content, ¬Stops field l.content := fun l hl =>
    h _ (List.mem_map_of_mem hl)
  have hall := lookupField_append hlines []
  rw [List.append_nil] at hall
  unfold ServerConf.ofContent
  rw [hall]
  rfl

/-- Of some lines one of which ends a look-up there is a first. -/
theorem exists_first_stop {lines : List Bytes} (h : ∃ line ∈ lines, Stops field line) :
    ∃ before line after, lines = before ++ line :: after ∧ (∀ b ∈ before, ¬Stops field b) ∧
      Stops field line := by
  have hsome : (lines.find? fun line => decide (Stops field line)).isSome = true := by
    rw [List.find?_isSome]
    simpa using h
  obtain ⟨line, hfind⟩ := Option.isSome_iff_exists.1 hsome
  obtain ⟨hline, before, after, hsplit, hbefore⟩ := List.find?_eq_some_iff_append.1 hfind
  exact ⟨before, line, after, hsplit, by simpa using hbefore, by simpa using hline⟩

variable {f : Files}

theorem read_eq_ofContent (hread : f.read c.path = .ok content) :
    c.read f field = c.ofContent field content := by
  unfold ServerConf.read
  rw [hread]

/-- **What is read of a field, whatever is in the file.** The first line that is no text or starts with
the field decides: that there is no reading on, or that the value is what begins one byte behind the
field, if anything does. If there is no such line the field is missing. And what stands behind one
makes no difference. -/
theorem read_of_content (hread : f.read c.path = .ok content) (field : String) :
    (∀ before line after, linesOf content = before ++ line :: after →
      (∀ b ∈ before, ¬Stops field b) → Stops field line →
      ∀ r, c.read f field = r ↔ Decides field line r) ∧
    ((∀ line ∈ linesOf content, ¬Stops field line) →
      c.read f field = .error (.fieldNotFound c.fqrn field)) ∧
    (∀ front rest, content = front ++ rest → Line.EndsLine front →
      (∃ line ∈ linesOf front, Stops field line) →
      ∀ g rest', g.read c.path = .ok (front ++ rest') → c.read g field = c.read f field) := by
  refine ⟨?_, ?_, ?_⟩
  · intro before line after hlines hbefore hline r
    have hdecides : Decides field line (c.read f field) := by
      rw [read_eq_ofContent hread]
      exact decides_ofContent hlines hbefore hline
    constructor
    · rintro rfl
      exact hdecides
    · exact hdecides.unique
  · intro hlines
    rw [read_eq_ofContent hread, ofContent_of_not_stops hlines]
  · rintro front rest rfl hfront hstops g rest' hread'
    obtain ⟨before, line, after, hsplit, hbefore, hline⟩ := exists_first_stop hstops
    have hdecides : ∀ s, Decides field line (c.ofContent field (front ++ s)) := by
      intro s
      have hlines : linesOf (front ++ s) = before ++ line :: (after ++ linesOf s) := by
        rw [linesOf_append hfront, hsplit, List.append_assoc, List.cons_append]
      exact decides_ofContent hlines hbefore hline
    rw [read_eq_ofContent hread, read_eq_ofContent hread']
    exact (hdecides rest').unique (hdecides rest)

/-- A separator of three bytes is none. What follows that line need not be text. -/
theorem read_of_content_wide :
    loneConf.read (holding ("# KEY\r\nKEY→1\n".utf8 ++ [0xff])) "KEY" = .ok "" := by
  obtain ⟨hdecides, -, -⟩ :=
    read_of_content (read_holding ("# KEY\r\nKEY→1\n".utf8 ++ [0xff])) "KEY"
  have hlines : linesOf ("# KEY\r\nKEY→1\n".utf8 ++ [0xff]) =
      ["# KEY".utf8] ++ "KEY→1".utf8 :: [[0xff]] := by decide +kernel
  have htext : Utf8.decode? "KEY→1".utf8 = some ("KEY".toList ++ "→1".toList) := by decide +kernel
  rw [hdecides _ _ _ hlines (by decide +kernel) (by decide +kernel)]
  refine .noValue htext (List.prefix_append _ _) fun rest hrest => ?_
  obtain ⟨c, hsplit, hc⟩ := beginsAt_one_iff.1 (beginsAt_append_iff.1 hrest)
  rw [← (List.cons.inj hsplit).1] at hc
  exact absurd hc (by decide)

end

end Stratum
