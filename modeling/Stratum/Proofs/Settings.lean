import Stratum.Proofs.Lines
import Stratum.Repository.Local

/-!
# Settings in a server configuration

A server configuration is a list of lines `KEY=value`, and one would think that a field is looked up
by its key. It is not: the first line that starts with the text of the field is the one that counts,
whether its key ends there or goes on. So a line is in the way of a field exactly if it starts with
it, and settings under longer keys can be.

> `read_of_settings`: what is read of a field, and which settings do not bear on it.
> `read_of_longer_key`: one that does.
-/

namespace Stratum

open Text

/-- A line `KEY=value`. The first `=` in it ends the key. -/
structure Setting where
  key : List Char
  value : List Char
  key_plain : '=' ∉ key
  key_line : '\n' ∉ key
  value_line : '\n' ∉ value

namespace Setting

/-- The text of the line. -/
def text (s : Setting) : List Char := s.key ++ '=' :: s.value

/-- Whether the line starts with a field. -/
def startsWith (s : Setting) (field : String) : Bool := field.toList.isPrefixOf s.text

/-- What is taken for the value of a field that the line starts with. -/
def valueFor (s : Setting) (field : String) : String :=
  String.ofList (fieldValue (s.text.drop field.toList.length))

variable {s : Setting} {field : String}

/-- A line starts with a field that has no `=` in it exactly if its key does. -/
theorem startsWith_iff (hfield : '=' ∉ field.toList) :
    s.startsWith field = true ↔ field.toList <+: s.key := by
  unfold startsWith
  rw [List.isPrefixOf_iff_prefix]
  constructor
  · intro h
    rcases List.prefix_or_prefix_of_prefix h (List.prefix_append s.key ('=' :: s.value)) with
      hkey | ⟨t, ht⟩
    · exact hkey
    -- What the field has behind the key is the front of what the line has there.
    unfold text at h
    rw [← ht, List.prefix_append_right_inj] at h
    cases t with
    | nil =>
      rw [List.append_nil] at ht
      exact ⟨[], by rw [List.append_nil, ht]⟩
    | cons c t =>
      obtain ⟨rfl, -⟩ := List.cons_prefix_cons.1 h
      rw [← ht] at hfield
      exact absurd (List.mem_append_right _ List.mem_cons_self) hfield
  · intro h
    exact h.trans (List.prefix_append _ _)

/-- Under its own key a line has its value, without the blanks around it. -/
theorem valueFor_of_key (h : s.key = field.toList) :
    s.startsWith field = true ∧ s.valueFor field = String.ofList (trim s.value) := by
  constructor
  · unfold startsWith text
    rw [List.isPrefixOf_iff_prefix, h]
    exact List.prefix_append _ _
  · unfold valueFor text
    rw [h, List.drop_left]
    rfl

/-! ## Files of settings -/

/-- The lines of a content are these settings, whatever ends the lines. -/
def Sets (content : Bytes) (ss : List Setting) : Prop :=
  (Line.ofBytes content).map (fun l => Utf8.decode? l.content) = ss.map fun s => some s.text

/-- The line, with a line feed behind it. -/
def line (s : Setting) : Bytes := Utf8.encode s.text ++ [Line.feed]

/-- Settings written down, line after line. -/
def file (ss : List Setting) : Bytes := ss.flatMap line

theorem feed_not_mem (s : Setting) : '\n' ∉ s.text := by
  intro hmem
  rcases List.mem_append.1 hmem with hkey | hvalue
  · exact s.key_line hkey
  · rcases List.mem_cons.1 hvalue with h | hvalue
    · cases h
    · exact s.value_line hvalue

/-- A line that is written is read, unless a carriage return at its end would be taken for a part of
the line end. -/
theorem content_line (h : s.value.getLast? ≠ some '\r') :
    (⟨Utf8.encode s.text, true⟩ : Line).content = Utf8.encode s.text := by
  have hlast : (Utf8.encode s.text).getLast? ≠ some Line.carriage := by
    intro hreturn
    have htext := Utf8.getLast?_of_encode (by decide) hreturn
    unfold text at htext
    rw [List.getLast?_append_of_ne_nil _ (List.cons_ne_nil _ _)] at htext
    cases hvalue : s.value with
    | nil =>
      rw [hvalue] at htext
      cases htext
    | cons c r =>
      rw [hvalue, List.getLast?_cons_cons, ← hvalue] at htext
      exact h htext
  simp [Line.content, hlast]

/-- **Settings that are written down are there.** -/
theorem sets_file {ss : List Setting} (h : ∀ s ∈ ss, s.value.getLast? ≠ some '\r') :
    Sets (file ss) ss := by
  induction ss with
  | nil => rfl
  | cons s ss ih =>
    have hlines : Line.ofBytes (file (s :: ss)) =
        ⟨Utf8.encode s.text, true⟩ :: Line.ofBytes (file ss) := by
      show Line.ofBytes (Utf8.encode s.text ++ [Line.feed] ++ file ss) = _
      rw [List.append_assoc]
      exact Line.ofBytes_of_feed (Line.ne_feed_of_mem_encode s.feed_not_mem) _
    unfold Sets
    rw [hlines, List.map_cons, List.map_cons, content_line (h s List.mem_cons_self),
      Utf8.decode?_encode, ih fun t ht => h t (List.mem_cons_of_mem s ht)]

end Setting

/-! ## Looking up -/

section

open Setting

/-- The first line that starts with a field decides what is found. -/
theorem lookupField_of_sets (field : String) {ls : List Line} {ss : List Setting}
    (h : ls.map (fun l => Utf8.decode? l.content) = ss.map fun s => some s.text) :
    lookupField field.toList ls =
      match ss.find? (·.startsWith field) with
      | some s => .found (s.valueFor field)
      | none => .missing := by
  induction ls generalizing ss with
  | nil =>
    rw [List.map_nil, eq_comm, List.map_eq_nil_iff] at h
    rw [h]
    rfl
  | cons l ls ih =>
    cases ss with
    | nil => cases h
    | cons s ss =>
      rw [List.map_cons, List.map_cons] at h
      obtain ⟨hl, hls⟩ := List.cons.inj h
      unfold lookupField
      rw [hl, List.find?_cons, ih hls]
      show (if s.startsWith field then _ else _) = _
      cases s.startsWith field <;> rfl

variable {c : ServerConf} {f : Files} {content : Bytes} {ss : List Setting} {field : String}

theorem read_eq_find? (hread : f.read c.path = .ok content) (hss : Sets content ss) :
    c.read f field =
      match ss.find? (·.startsWith field) with
      | some s => .ok (s.valueFor field)
      | none => .error (.fieldNotFound c.fqrn field) := by
  unfold ServerConf.read ServerConf.ofContent
  rw [hread]
  simp only [lookupField_of_sets field hss]
  cases ss.find? (·.startsWith field) <;> rfl

/-- **What is read of a field.** The first line that starts with it counts; if its key is the field,
what is read is its value without the blanks around it. Without such a line the field is missing. A
line that does not start with the field may be put anywhere, and nothing changes; and unless there
is a `=` in the field, these are the lines whose keys do not start with it. -/
theorem read_of_settings (hread : f.read c.path = .ok content) (hss : Sets content ss)
    (field : String) :
    (∀ before s after, ss = before ++ s :: after →
      (∀ t ∈ before, t.startsWith field = false) → s.startsWith field = true →
      c.read f field = .ok (s.valueFor field)) ∧
    (∀ before s after, ss = before ++ s :: after →
      (∀ t ∈ before, t.startsWith field = false) → s.key = field.toList →
      c.read f field = .ok (String.ofList (trim s.value))) ∧
    ((∀ t ∈ ss, t.startsWith field = false) →
      c.read f field = .error (.fieldNotFound c.fqrn field)) ∧
    (∀ before s after, ss = before ++ after → s.startsWith field = false →
      ∀ g content', g.read c.path = .ok content' → Sets content' (before ++ s :: after) →
        c.read g field = c.read f field) ∧
    ('=' ∉ field.toList → ∀ s : Setting, s.startsWith field = true ↔ field.toList <+: s.key) := by
  have hfirst : ∀ before s after, ss = before ++ s :: after →
      (∀ t ∈ before, t.startsWith field = false) → s.startsWith field = true →
      c.read f field = .ok (s.valueFor field) := by
    intro before s after hsplit hbefore hs
    have hnone : before.find? (·.startsWith field) = none :=
      List.find?_eq_none.2 fun t ht => by rw [hbefore t ht]; decide
    rw [read_eq_find? hread hss, hsplit, List.find?_append, hnone, List.find?_cons, hs]
    rfl
  refine ⟨hfirst, ?_, ?_, ?_, ?_⟩
  · intro before s after hsplit hbefore hkey
    obtain ⟨hs, hvalue⟩ := valueFor_of_key hkey
    rw [hfirst before s after hsplit hbefore hs, hvalue]
  · intro hnone
    rw [read_eq_find? hread hss,
      List.find?_eq_none.2 fun t ht => by rw [hnone t ht]; decide]
  · intro before s after hsplit hs g content' hread' hss'
    rw [read_eq_find? hread hss, read_eq_find? hread' hss', hsplit, List.find?_append,
      List.find?_append, List.find?_cons, hs]
  · intro hfield s
    exact startsWith_iff hfield

/-! ## A longer key -/

/-- A server configuration by itself. -/
def loneConf : ServerConf := ⟨"a.org", "/server.conf"⟩

/-- A machine with one file, in the place of that configuration. -/
def holding (content : Bytes) : Files where
  entries := [(.of ["server.conf"], .file content)]
  cwd := []
  nodup := by simp
  proper := by
    show ∀ p ∈ [Route.of ["server.conf"]], Route.isProper p = true
    decide +kernel

theorem read_holding (content : Bytes) : (holding content).read loneConf.path = .ok content := rfl

/-- The kind, declared. -/
def typed : Setting where
  key := "CVMFS_REPOSITORY_TYPE".toList
  value := "stratum0".toList
  key_plain := by decide
  key_line := by decide
  value_line := by decide

/-- A setting whose key goes on behind that of the kind. -/
def retired : Setting where
  key := "CVMFS_REPOSITORY_TYPE_OLD".toList
  value := "stratum1".toList
  key_plain := by decide
  key_line := by decide
  value_line := by decide

/-- A setting with a key of its own. -/
def named : Setting where
  key := "CVMFS_REPOSITORY_NAME".toList
  value := "a.org".toList
  key_plain := by decide
  key_line := by decide
  value_line := by decide

/-- A setting under another key may stand in front of the kind. -/
theorem read_of_settings_named :
    Sets (file [typed]) [typed] ∧ Sets (file [named, typed]) [named, typed] ∧
    named.startsWith Local.kindField = false ∧
    loneConf.read (holding (file [named, typed])) Local.kindField =
      loneConf.read (holding (file [typed])) Local.kindField ∧
    loneConf.read (holding (file [typed])) Local.kindField = .ok "stratum0" := by
  have htyped : Sets (file [typed]) [typed] := sets_file (by decide)
  have hboth : Sets (file [named, typed]) [named, typed] := sets_file (by decide)
  have hnamed : named.startsWith Local.kindField = false := by decide
  obtain ⟨-, hkey, -, hframe, -⟩ :=
    read_of_settings (read_holding (file [typed])) htyped Local.kindField
  refine ⟨htyped, hboth, hnamed, ?_, ?_⟩
  · exact hframe [] named [typed] rfl hnamed _ _ (read_holding _) hboth
  · exact hkey [] typed [] rfl (List.forall_mem_nil _) rfl

/-- A setting under a longer key may not: it is taken for the kind. -/
theorem read_of_longer_key :
    retired.key ≠ Local.kindField.toList ∧
    Sets (file [typed]) [typed] ∧ Sets (file [retired, typed]) [retired, typed] ∧
    loneConf.read (holding (file [typed])) Local.kindField = .ok "stratum0" ∧
    loneConf.read (holding (file [retired, typed])) Local.kindField = .ok "OLD=stratum1" := by
  refine ⟨by decide, sets_file (by decide), sets_file (by decide), ?_, ?_⟩
  · decide +kernel
  · decide +kernel

end

end Stratum
