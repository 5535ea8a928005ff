import Stratum.Proofs.Contents
import Stratum.Proofs.Header

/-!
# Line ends

Files that have been on another system may end their lines in CR LF. `Line.withReturns` makes such
a file of any other: it puts a carriage return in front of every line feed, and so a second one
where there is one already. Three readers meet these files, and each deals with the end of a line in
its own way. A manifest drops all line ends behind a line; a server configuration drops one carriage
return, looks at the front of what is left, and trims the value; a marker is trimmed as a whole.

> `Local.load_withReturns`: to none of them does it make a difference.
-/

namespace Stratum

open Text

namespace Text.Line

/-! ## Carriage returns in front of line feeds -/

/-- A byte string with a carriage return in front of every line feed. -/
def withReturns (s : Bytes) : Bytes := s.flatMap fun b => if b = feed then [carriage, feed] else [b]

/-- A line with a carriage return in front of its line feed, if it has one. -/
def withReturn (l : Line) : Line := if l.ended then { l with body := l.body ++ [carriage] } else l

/-- No line comes or goes. -/
theorem ofBytes_withReturns (s : Bytes) : ofBytes (withReturns s) = (ofBytes s).map withReturn := by
  induction s with
  | nil => rfl
  | cons b r ih =>
    show ofBytes ((if b = feed then [carriage, feed] else [b]) ++ withReturns r) = _
    by_cases hb : b = feed
    · rw [if_pos hb, hb, ofBytes_feed]
      show ofBytes (carriage :: feed :: withReturns r) = _
      rw [ofBytes_cons_of_ne (by decide), ofBytes_feed, ih]
      rfl
    · rw [if_neg hb, ofBytes_cons_of_ne hb]
      show ofBytes (b :: withReturns r) = _
      rw [ofBytes_cons_of_ne hb, ih]
      cases ofBytes r with
      | nil => rfl
      | cons l ls =>
        obtain ⟨body, ended⟩ := l
        cases ended <;> rfl

/-- Of two carriage returns at the end of a line one is left. -/
theorem content_withReturn (l : Line) :
    l.withReturn.content = l.content ∨ l.withReturn.content = l.content ++ [carriage] := by
  obtain ⟨body, ended⟩ := l
  cases ended with
  | false => exact Or.inl rfl
  | true =>
    have hnew : withReturn ⟨body, true⟩ = ⟨body ++ [carriage], true⟩ := rfl
    have hbody : (⟨body ++ [carriage], true⟩ : Line).content = body := by simp [content]
    rw [hnew, hbody]
    by_cases hlast : body.getLast? = some carriage
    · refine Or.inr ?_
      have hold : (⟨body, true⟩ : Line).content = body.dropLast := by simp [content, hlast]
      rw [hold, List.dropLast_append_getLast? carriage hlast]
    · refine Or.inl ?_
      simp [content, hlast]

/-- Behind what a line holds, its bytes go on with line ends, and so do those of the line with one
more carriage return. -/
theorem bytes_withReturn (l : Line) :
    ∃ ends ends' : Bytes, l.bytes = l.body ++ ends ∧ l.withReturn.bytes = l.body ++ ends' ∧
      Ends ends ∧ Ends ends' := by
  obtain ⟨body, ended⟩ := l
  cases ended with
  | false =>
    exact ⟨[], [], (List.append_nil body).symm, (List.append_nil body).symm,
      List.forall_mem_nil _, List.forall_mem_nil _⟩
  | true =>
    refine ⟨[feed], [carriage, feed], rfl, List.append_assoc body [carriage] [feed], ?_, ?_⟩
    · intro b hb
      exact Or.inr (List.mem_singleton.1 hb)
    · intro b hb
      rcases List.mem_cons.1 hb with hb | hb
      · exact Or.inl hb
      · exact Or.inr (List.mem_singleton.1 hb)

end Text.Line

/-! ## Manifests -/

namespace Manifest

theorem lineText_withReturn (l : Line) : lineText l.withReturn = lineText l := by
  obtain ⟨ends, ends', hbytes, hbytes', hends, hends'⟩ := l.bytes_withReturn
  rw [lineText_of_ends hbytes' hends', lineText_of_ends hbytes hends]

/-- A manifest is read the same. -/
theorem ofBytes_withReturns (content : Bytes) :
    ofBytes (Line.withReturns content) = ofBytes content := by
  unfold ofBytes header
  rw [Line.ofBytes_withReturns, List.map_map]
  have hlines : (lineText ∘ Line.withReturn) = lineText := funext lineText_withReturn
  rw [hlines]

end Manifest

/-! ## Markers -/

namespace Source

/-- Blanks around it do not matter to a time. -/
theorem readTime_of_trim_eq {s t : List Char} (h : trim s = trim t) : readTime s = readTime t := by
  unfold readTime Time.Timestamp.read?
  rw [h]

/-- What line ends stand behind the text of a marker does not matter to its time. -/
theorem readMarker_eq_of_ends {content content' s ends ends' : Bytes}
    (h : Line.first content = s ++ ends) (h' : Line.first content' = s ++ ends')
    (hends : Line.Ends ends) (hends' : Line.Ends ends') :
    readMarker content' = readMarker content := by
  have hblank {t : List Char} (ht : ∀ c ∈ t, c = '\r' ∨ c = '\n') : ∀ c ∈ t, isBlank c = true := by
    intro c hc
    rcases ht c hc with rfl | rfl
    · decide
    · decide
  obtain ⟨t, ht, hdecode, -⟩ := Line.decode?_append_ends hends s
  obtain ⟨t', ht', hdecode', -⟩ := Line.decode?_append_ends hends' s
  unfold readMarker markerText?
  rw [h, h', hdecode, hdecode']
  cases Utf8.decode? s with
  | none => rfl
  | some text =>
    apply readTime_of_trim_eq
    rw [trim_append_of_forall (hblank ht'), trim_append_of_forall (hblank ht)]

/-- A marker is read the same. -/
theorem readMarker_withReturns (content : Bytes) :
    readMarker (Line.withReturns content) = readMarker content := by
  cases hlines : Line.ofBytes content with
  | nil =>
    have hnil : content = [] := Line.ofBytes_eq_nil_iff.1 hlines
    rw [hnil]
    rfl
  | cons l ls =>
    obtain ⟨ends, ends', hbytes, hbytes', hends, hends'⟩ := l.bytes_withReturn
    have hfirst : Line.first content = l.body ++ ends := by
      unfold Line.first
      rw [hlines, ← hbytes]
      rfl
    have hfirst' : Line.first (Line.withReturns content) = l.body ++ ends' := by
      unfold Line.first
      rw [Line.ofBytes_withReturns, hlines, ← hbytes']
      rfl
    exact readMarker_eq_of_ends hfirst hfirst' hends hends'

end Source

/-! ## Server configurations -/

theorem fieldValue_append_return (s : List Char) : fieldValue (s ++ ['\r']) = fieldValue s := by
  cases s with
  | nil => rfl
  | cons c r =>
    show (if c.utf8Size = 1 then trim (r ++ ['\r']) else []) = if c.utf8Size = 1 then trim r else []
    have hblank : ∀ c ∈ ['\r'], isBlank c = true := by
      intro c hc
      rw [List.mem_singleton.1 hc]
      decide
    rw [trim_append_of_forall hblank]

/-- The look-up of a field steps over one more carriage return at the end of a line, be it in front
of the field or behind its value. -/
theorem lookupField_withReturn {field : List Char} (hfield : '\r' ∉ field) (ls : List Line) :
    lookupField field (ls.map Line.withReturn) = lookupField field ls := by
  induction ls with
  | nil => rfl
  | cons l ls ih =>
    rw [List.map_cons]
    unfold lookupField
    rw [ih]
    rcases l.content_withReturn with h | h
    · rw [h]
    have hreturn : Utf8.decode? [Line.carriage] = some ['\r'] := by decide +kernel
    rw [h, Utf8.decode?_append (by decide), hreturn]
    cases Utf8.decode? l.content with
    | none => rfl
    | some text =>
      -- A field has no carriage return in it, so it cannot reach as far as this one.
      have hreach : field.isPrefixOf (text ++ ['\r']) = field.isPrefixOf text := by
        rw [Bool.eq_iff_iff, List.isPrefixOf_iff_prefix, List.isPrefixOf_iff_prefix,
          List.prefix_concat_iff]
        refine or_iff_right fun he => hfield ?_
        rw [he]
        exact List.mem_append_right _ List.mem_cons_self
      show (if field.isPrefixOf (text ++ ['\r']) then
          .found (String.ofList (fieldValue ((text ++ ['\r']).drop field.length)))
        else lookupField field ls) =
        if field.isPrefixOf text then
          .found (String.ofList (fieldValue (text.drop field.length)))
        else lookupField field ls
      rw [hreach]
      by_cases hp : field.isPrefixOf text = true
      · have hlength : field.length ≤ text.length := (List.isPrefixOf_iff_prefix.1 hp).length_le
        rw [if_pos hp, if_pos hp, List.drop_append_of_le_length hlength, fieldValue_append_return]
      · rw [if_neg hp, if_neg hp]

/-- A server configuration is read the same. -/
theorem ServerConf.ofContent_withReturns (c : ServerConf) {field : String}
    (hfield : '\r' ∉ field.toList) (content : Bytes) :
    c.ofContent field (Line.withReturns content) = c.ofContent field content := by
  unfold ofContent
  rw [Line.ofBytes_withReturns, lookupField_withReturn hfield]

/-! ## The whole tree -/

/-- The tree with a carriage return in front of every line feed of the files at the places that are
chosen. -/
def Files.withReturns (f : Files) (chosen : Route → Bool) : Files :=
  f.rewrite fun p content => if chosen p then Line.withReturns content else content

/-- What is read in it at a path: there is a carriage return in front of every line feed exactly if
the path leads to a place that was chosen. -/
theorem Files.read_withReturns {f : Files} {chosen : Route → Bool} {path : String} {p : Route}
    {e : Entry} (h : f.resolve path = .ok (p, e)) :
    (f.withReturns chosen).read path =
      (f.read path).map fun content => if chosen p then Line.withReturns content else content :=
  (rewrites_rewrite f _).read_eq h

theorem readAlike_withReturns (chosen : Route → Bool) :
    ReadAlike fun p content => if chosen p then Line.withReturns content else content where
  field := by
    intro conf field hf p content
    have hfield : '\r' ∉ field.toList := by
      revert field
      decide
    split
    next => exact conf.ofContent_withReturns hfield content
    next => rfl
  manifest := by
    intro p content
    split
    next => exact Manifest.ofBytes_withReturns content
    next => rfl
  marker := by
    intro p content
    split
    next => exact Source.readMarker_withReturns content
    next => rfl

/-- **Line ends do not matter.** Whichever files have their line ends changed, be it the server
configuration, the manifest and both markers, only some of them or all files of the machine: a
repository opens to the same, or fails in the same way. -/
theorem Local.load_withReturns (f : Files) (chosen : Route → Bool) (layout : Layout)
    (fqrn : String) : load (f.withReturns chosen) layout fqrn = load f layout fqrn :=
  load_of_rewrites (Files.rewrites_rewrite f _) (readAlike_withReturns chosen) layout fqrn

end Stratum
