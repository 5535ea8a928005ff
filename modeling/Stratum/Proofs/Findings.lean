import Stratum.Proofs.Discovery
import Stratum.Proofs.Header
import Stratum.Proofs.Trails

/-!
# What discovery finds

Three artifacts make the state of a repository, and any of them can be at fault. `Flaw` lists the
faults of each artifact, and with each the failure it amounts to; `Shows` says, field by field,
what the artifacts tell about a state. Neither speaks of the order in which the artifacts are
looked at. The order is that of `Artifact.all`: discovery asks for one artifact after another until
it comes to one that is at fault.

> `discover_eq_iff`: that is all there is to discovery, what it asks for and how it ends.
-/

namespace Stratum

open Text

/-- The artifacts that discovery looks at. -/
inductive Artifact where
  | manifest
  | lastReplication
  | replicating
deriving DecidableEq

namespace Artifact

/-- The artifacts in the order in which they are looked at. -/
def all : List Artifact := [manifest, lastReplication, replicating]

/-- What an artifact is called. -/
def name (layout : Layout) : Artifact → String
  | manifest => layout.manifestName
  | lastReplication => layout.lastReplicationName
  | replicating => layout.replicatingName

/-- There is one place in the order for each artifact. -/
theorem eq_of_all_eq {before after before' after' : List Artifact} {a a' : Artifact}
    (h : all = before ++ a :: after) (h' : all = before' ++ a' :: after') :
    a' ∈ before ∨ a ∈ before' ∨ (before = before' ∧ a = a') := by
  rcases List.append_eq_append_iff.1 (h.symm.trans h') with
    ⟨mid, hbefore, hrest⟩ | ⟨mid, hbefore, hrest⟩
  · cases mid with
    | nil =>
      rw [List.append_nil] at hbefore
      exact Or.inr (Or.inr ⟨hbefore.symm, (List.cons.inj hrest).1⟩)
    | cons b mid =>
      obtain ⟨rfl, -⟩ := List.cons.inj hrest
      exact Or.inr (Or.inl (hbefore ▸ List.mem_append_right _ List.mem_cons_self))
  · cases mid with
    | nil =>
      rw [List.append_nil] at hbefore
      exact Or.inr (Or.inr ⟨hbefore, (List.cons.inj hrest).1.symm⟩)
    | cons b mid =>
      obtain ⟨rfl, -⟩ := List.cons.inj hrest
      exact Or.inl (hbefore ▸ List.mem_append_right _ List.mem_cons_self)

end Artifact

namespace Source

/-- There is no such artifact, and the source says so. -/
def Lacks (s : Source) (name : String) : Prop :=
  ∃ repository artifact, s.retrieve name = .error (.artifactNotFound repository artifact)

/-- All that can be wrong with an artifact, and the failure that it amounts to. -/
inductive Flaw (s : Source) (layout : Layout) : Artifact → Failure → Prop
  /-- Without a manifest there is no repository; a marker may be missing. -/
  | missing (h : s.Lacks layout.manifestName) :
    Flaw s layout .manifest (.repositoryNotFound s.location)
  /-- The source fails in any other way. -/
  | unavailable {a : Artifact} {d : Failure} (h : s.retrieve (a.name layout) = .error d)
    (other : ∀ repository artifact, d ≠ .artifactNotFound repository artifact) : Flaw s layout a d
  | noManifest {content : Bytes} {cause : ManifestError}
    (h : s.retrieve layout.manifestName = .ok content)
    (hread : Manifest.ofBytes content = .error cause) : Flaw s layout .manifest (.badManifest cause)
  /-- The first line of a marker is no text. -/
  | noText {a : Artifact} {content : Bytes} (marker : a ≠ .manifest)
    (h : s.retrieve (a.name layout) = .ok content) (htext : markerText? content = none) :
    Flaw s layout a (.io .notUtf8)
  /-- The first line of a marker is no time. -/
  | noTime {a : Artifact} {content : Bytes} {text : List Char} (marker : a ≠ .manifest)
    (h : s.retrieve (a.name layout) = .ok content) (htext : markerText? content = some text)
    (htime : Time.Timestamp.read? text = none) :
    Flaw s layout a (.badTimestamp (String.ofList (trim text)))

/-- What a marker tells: nothing if it is missing, and otherwise the time in its first line. -/
inductive Dates (s : Source) (name : String) : Option Time.Instant → Prop
  | missing (h : s.Lacks name) : Dates s name none
  | dated {content : Bytes} {text : List Char} {t : Time.Instant}
    (h : s.retrieve name = .ok content) (htext : markerText? content = some text)
    (htime : Time.Timestamp.read? text = some t) : Dates s name (some t)

/-- What the artifacts tell about a state, field by field. -/
structure Shows (s : Source) (layout : Layout) (declared : Kind) (version : String)
    (state : State) : Prop where
  /-- The manifest is the one that is there, and the name is what its first `N` says. -/
  manifest : ∃ content, s.retrieve layout.manifestName = .ok content ∧
    Manifest.ofBytes content = .ok state.manifest ∧
    Manifest.firstValue? 'N' (Manifest.header content) = some state.fqrn
  version_eq : state.version = version
  /-- A kind that is declared is kept, whatever the markers. -/
  declared_kept : declared ≠ .unknown → state.kind = declared
  /-- A kind that is not is that of a replica if there is a marker of the last replication. -/
  kind_of_marker : declared = .unknown →
    (∃ content, s.retrieve layout.lastReplicationName = .ok content) → state.kind = .stratum1
  kind_of_no_marker : declared = .unknown → s.Lacks layout.lastReplicationName →
    state.kind = .unknown
  /-- Without that marker the last replication is at the epoch. -/
  lastReplication : ∃ last, s.Dates layout.lastReplicationName last ∧
    state.lastReplication = last.getD Time.Instant.epoch
  replicatingSince : s.Dates layout.replicatingName state.replicatingSince

/-- Discovery as a whole: it comes to all artifacts and finds no flaw, or it comes to the first that
has one. -/
inductive Discovers (s : Source) (layout : Layout) (declared : Kind) (version : String) :
    Trail String Failure State → Prop
  | found {state : State} (sound : ∀ a d, ¬s.Flaw layout a d)
    (shows : s.Shows layout declared version state) :
    Discovers s layout declared version ⟨Artifact.all.map (Artifact.name layout), .ok state⟩
  | stopped {before after : List Artifact} {a : Artifact} {d : Failure}
    (order : Artifact.all = before ++ a :: after) (sound : ∀ b ∈ before, ∀ d, ¬s.Flaw layout b d)
    (flaw : s.Flaw layout a d) :
    Discovers s layout declared version ⟨(before ++ [a]).map (Artifact.name layout), .error d⟩

variable {s : Source} {layout : Layout} {declared : Kind} {version : String}

/-! ## One artifact -/

/-- There is no content exactly if the artifact is missing. -/
theorem content?_eq_none_iff {name : String} : s.content? name = .ok none ↔ s.Lacks name := by
  unfold content? Lacks
  constructor
  · intro h
    unfold orNone at h
    split at h
    next => cases h
    next repository artifact hnone => exact ⟨repository, artifact, hnone⟩
    next => cases h
  · intro h
    obtain ⟨repository, artifact, h⟩ := h
    rw [h]
    rfl

/-- There is some exactly if it is retrieved. -/
theorem content?_eq_some_iff {name : String} {content : Bytes} :
    s.content? name = .ok (some content) ↔ s.retrieve name = .ok content := by
  unfold content?
  constructor
  · intro h
    unfold orNone at h
    split at h
    next held hheld =>
      cases h
      exact hheld
    next => cases h
    next => cases h
  · intro h
    rw [h]
    rfl

/-- Any other failure to retrieve it is passed on. -/
theorem content?_eq_error_iff {name : String} {d : Failure} :
    s.content? name = .error d ↔
      s.retrieve name = .error d ∧
        ∀ repository artifact, d ≠ .artifactNotFound repository artifact := by
  unfold content?
  constructor
  · intro h
    unfold orNone at h
    split at h
    next => cases h
    next => cases h
    next other hother herror =>
      cases h
      exact ⟨herror, hother⟩
  · intro h
    obtain ⟨herror, other⟩ := h
    rw [herror]
    cases d with
    | artifactNotFound repository artifact => exact absurd rfl (other repository artifact)
    | _ => rfl

/-- A manifest is what is read from the bytes of its artifact. -/
theorem outcome_manifest_eq_ok_iff {name : String} {m : Manifest} :
    (s.manifest name).outcome = .ok m ↔
      ∃ content, s.retrieve name = .ok content ∧ Manifest.ofBytes content = .ok m := by
  rw [outcome_manifest, Outcome.bind_eq_ok_iff]
  constructor
  · intro h
    obtain ⟨content, hcontent, h⟩ := h
    cases content with
    | none => cases h
    | some content =>
      exact ⟨content, content?_eq_some_iff.1 hcontent, Outcome.mapError_eq_ok_iff.1 h⟩
  · intro h
    obtain ⟨content, hcontent, h⟩ := h
    exact ⟨some content, content?_eq_some_iff.2 hcontent, Outcome.mapError_eq_ok_iff.2 h⟩

/-- The reading of the manifest fails by its flaws. -/
theorem outcome_manifest_eq_error_iff {d : Failure} :
    (s.manifest layout.manifestName).outcome = .error d ↔ s.Flaw layout .manifest d := by
  rw [outcome_manifest, Outcome.bind_eq_error_iff]
  constructor
  · intro h
    rcases h with h | ⟨content, hcontent, h⟩
    · obtain ⟨herror, other⟩ := content?_eq_error_iff.1 h
      exact .unavailable herror other
    · cases content with
      | none =>
        cases h
        exact .missing (content?_eq_none_iff.1 hcontent)
      | some content =>
        obtain ⟨cause, hread, rfl⟩ := Outcome.mapError_eq_error_iff.1 h
        exact .noManifest (content?_eq_some_iff.1 hcontent) hread
  · intro h
    cases h with
    | missing h => exact Or.inr ⟨none, content?_eq_none_iff.2 h, rfl⟩
    | unavailable h other => exact Or.inl (content?_eq_error_iff.2 ⟨h, other⟩)
    | noManifest h hread =>
      exact Or.inr ⟨_, content?_eq_some_iff.2 h, Outcome.mapError_eq_error_iff.2 ⟨_, hread, rfl⟩⟩
    | noText marker => exact absurd rfl marker
    | noTime marker => exact absurd rfl marker

/-- A marker is read exactly if it is text and its line is a time. -/
theorem readMarker_eq_ok_iff {content : Bytes} {t : Time.Instant} :
    readMarker content = .ok t ↔
      ∃ text, markerText? content = some text ∧ Time.Timestamp.read? text = some t := by
  unfold readMarker readTime
  cases markerText? content with
  | none => simp
  | some text => cases h : Time.Timestamp.read? text <;> simp [h]

/-- It is refused as no text, or as no time with the line as the reason. -/
theorem readMarker_eq_error_iff {content : Bytes} {d : Failure} :
    readMarker content = .error d ↔
      (markerText? content = none ∧ d = .io .notUtf8) ∨
      ∃ text, markerText? content = some text ∧ Time.Timestamp.read? text = none ∧
        d = .badTimestamp (String.ofList (trim text)) := by
  unfold readMarker readTime
  cases markerText? content with
  | none => simp [eq_comm]
  | some text => cases h : Time.Timestamp.read? text <;> simp [h, eq_comm]

/-- A marker gives a time, or none if there is no such artifact. -/
theorem outcome_marker?_eq_ok_iff {name : String} {t : Option Time.Instant} :
    (s.marker? name).outcome = .ok t ↔ s.Dates name t := by
  rw [outcome_marker?, Outcome.bind_eq_ok_iff]
  constructor
  · intro h
    obtain ⟨content, hcontent, h⟩ := h
    cases content with
    | none =>
      cases h
      exact .missing (content?_eq_none_iff.1 hcontent)
    | some content =>
      obtain ⟨t, ht, rfl⟩ := Outcome.map_eq_ok_iff.1 h
      obtain ⟨text, htext, htime⟩ := readMarker_eq_ok_iff.1 ht
      exact .dated (content?_eq_some_iff.1 hcontent) htext htime
  · intro h
    cases h with
    | missing h => exact ⟨none, content?_eq_none_iff.2 h, rfl⟩
    | dated h htext htime =>
      refine ⟨_, content?_eq_some_iff.2 h, Outcome.map_eq_ok_iff.2 ⟨_, ?_, rfl⟩⟩
      exact readMarker_eq_ok_iff.2 ⟨_, htext, htime⟩

/-- The reading of a marker fails by its flaws, and a marker that is missing is none. -/
theorem outcome_marker?_eq_error_iff {a : Artifact} (marker : a ≠ .manifest) {d : Failure} :
    (s.marker? (a.name layout)).outcome = .error d ↔ s.Flaw layout a d := by
  rw [outcome_marker?, Outcome.bind_eq_error_iff]
  constructor
  · intro h
    rcases h with h | ⟨content, hcontent, h⟩
    · obtain ⟨herror, other⟩ := content?_eq_error_iff.1 h
      exact .unavailable herror other
    · cases content with
      | none => cases h
      | some content =>
        have hheld := content?_eq_some_iff.1 hcontent
        rcases readMarker_eq_error_iff.1 (Outcome.map_eq_error_iff.1 h) with
          ⟨htext, rfl⟩ | ⟨text, htext, htime, rfl⟩
        · exact .noText marker hheld htext
        · exact .noTime marker hheld htext htime
  · intro h
    cases h with
    | missing => exact absurd rfl marker
    | unavailable h other => exact Or.inl (content?_eq_error_iff.2 ⟨h, other⟩)
    | noManifest => exact absurd rfl marker
    | noText _ h htext =>
      refine Or.inr ⟨_, content?_eq_some_iff.2 h, Outcome.map_eq_error_iff.2 ?_⟩
      exact readMarker_eq_error_iff.2 (Or.inl ⟨htext, rfl⟩)
    | noTime _ h htext htime =>
      refine Or.inr ⟨_, content?_eq_some_iff.2 h, Outcome.map_eq_error_iff.2 ?_⟩
      exact readMarker_eq_error_iff.2 (Or.inr ⟨_, htext, htime, rfl⟩)

/-- A manifest that was read has no flaw. -/
theorem sound_manifest {m : Manifest} (h : (s.manifest layout.manifestName).outcome = .ok m)
    (d : Failure) : ¬s.Flaw layout .manifest d := by
  intro hflaw
  rw [outcome_manifest_eq_error_iff.2 hflaw] at h
  cases h

/-- A marker that was read has none either. -/
theorem sound_marker? {a : Artifact} {t : Option Time.Instant} (marker : a ≠ .manifest)
    (h : (s.marker? (a.name layout)).outcome = .ok t) (d : Failure) : ¬s.Flaw layout a d := by
  intro hflaw
  rw [(outcome_marker?_eq_error_iff marker).2 hflaw] at h
  cases h

/-- So an artifact has one flaw at most. -/
theorem Flaw.unique {a : Artifact} {d d' : Failure} (h : s.Flaw layout a d)
    (h' : s.Flaw layout a d') : d = d' := by
  by_cases marker : a = .manifest
  · subst marker
    have hd := outcome_manifest_eq_error_iff.2 h
    rw [outcome_manifest_eq_error_iff.2 h'] at hd
    exact (Except.error.inj hd).symm
  · have hd := (outcome_marker?_eq_error_iff marker).2 h
    rw [(outcome_marker?_eq_error_iff marker).2 h'] at hd
    exact (Except.error.inj hd).symm

/-- A marker has one time at most. -/
theorem Dates.unique {name : String} {t t' : Option Time.Instant} (h : s.Dates name t)
    (h' : s.Dates name t') : t = t' := by
  have ht := outcome_marker?_eq_ok_iff.2 h
  rw [outcome_marker?_eq_ok_iff.2 h'] at ht
  exact (Except.ok.inj ht).symm

/-! ## All of them -/

theorem asked_manifest (s : Source) (name : String) : (s.manifest name).asked = [name] := by
  refine Trail.asked_bind_of_quiet (t := s.fetch? name) fun content => ?_
  cases content <;> rfl

theorem asked_marker? (s : Source) (name : String) : (s.marker? name).asked = [name] := by
  refine Trail.asked_bind_of_quiet (t := s.fetch? name) fun content => ?_
  cases content with
  | none => rfl
  | some content =>
    exact Trail.asked_bind_of_quiet (t := Trail.of (readMarker content)) fun t => rfl

/-- A marker that is there has a time. -/
theorem Dates.isNone_eq_false {name : String} {t : Option Time.Instant} (h : s.Dates name t)
    (hheld : ∃ content, s.retrieve name = .ok content) : t.isNone = false := by
  obtain ⟨content, hheld⟩ := hheld
  cases h with
  | missing h =>
    obtain ⟨repository, artifact, h⟩ := h
    cases hheld.symm.trans h
  | dated => rfl

/-- The state that is made of the findings shows them. -/
theorem shows_stateOf {m : Manifest} {last since : Option Time.Instant}
    (hm : (s.manifest layout.manifestName).outcome = .ok m)
    (hlast : (s.marker? layout.lastReplicationName).outcome = .ok last)
    (hsince : (s.marker? layout.replicatingName).outcome = .ok since) :
    s.Shows layout declared version (stateOf declared version m last since) := by
  obtain ⟨content, hheld, hread⟩ := outcome_manifest_eq_ok_iff.1 hm
  have hdates := outcome_marker?_eq_ok_iff.1 hlast
  exact {
    manifest := ⟨content, hheld, hread, (Manifest.firstValue?_of_ofBytes hread).1⟩
    version_eq := rfl
    declared_kept := by
      intro h
      exact resolveKind_of_isKnown (bne_iff_ne.2 h) last
    kind_of_marker := by
      intro h hmarker
      show resolveKind declared last = .stratum1
      unfold resolveKind
      rw [h, hdates.isNone_eq_false hmarker]
      rfl
    kind_of_no_marker := by
      intro h hmarker
      show resolveKind declared last = .unknown
      rw [hdates.unique (.missing hmarker), h]
      rfl
    lastReplication := ⟨last, hdates, rfl⟩
    replicatingSince := outcome_marker?_eq_ok_iff.1 hsince }

/-- No other state does. -/
theorem Shows.unique {state state' : State} (h : s.Shows layout declared version state)
    (h' : s.Shows layout declared version state') : state = state' := by
  obtain ⟨content, hheld, hread, hname⟩ := h.manifest
  obtain ⟨content', hheld', hread', hname'⟩ := h'.manifest
  cases hheld.symm.trans hheld'
  obtain ⟨last, hlast, hlastReplication⟩ := h.lastReplication
  obtain ⟨last', hlast', hlastReplication'⟩ := h'.lastReplication
  cases hlast.unique hlast'
  have hkind : state.kind = state'.kind := by
    by_cases hdeclared : declared = .unknown
    · cases hlast with
      | missing hmarker =>
        rw [h.kind_of_no_marker hdeclared hmarker, h'.kind_of_no_marker hdeclared hmarker]
      | dated hmarker =>
        rw [h.kind_of_marker hdeclared ⟨_, hmarker⟩, h'.kind_of_marker hdeclared ⟨_, hmarker⟩]
    · rw [h.declared_kept hdeclared, h'.declared_kept hdeclared]
  have hmanifest : state.manifest = state'.manifest := Except.ok.inj (hread.symm.trans hread')
  have hfqrn : state.fqrn = state'.fqrn := Option.some.inj (hname.symm.trans hname')
  have hversion : state.version = state'.version := h.version_eq.trans h'.version_eq.symm
  have hreplication : state.lastReplication = state'.lastReplication :=
    hlastReplication.trans hlastReplication'.symm
  have hsince : state.replicatingSince = state'.replicatingSince :=
    h.replicatingSince.unique h'.replicatingSince
  cases state
  cases state'
  simp only at hkind hmanifest hfqrn hversion hreplication hsince
  rw [hkind, hmanifest, hfqrn, hversion, hreplication, hsince]

/-- **Discovery does what is said of it**: it goes on to the first flaw and reports it. -/
theorem discovers (s : Source) (layout : Layout) (declared : Kind) (version : String) :
    s.Discovers layout declared version (s.discover layout declared version) := by
  unfold discover
  cases hm : (s.manifest layout.manifestName).outcome with
  | error d =>
    rw [Trail.bind_of_error hm, asked_manifest]
    have order : Artifact.all = [] ++ .manifest :: [.lastReplication, .replicating] := rfl
    refine .stopped order ?_ (outcome_manifest_eq_error_iff.1 hm)
    intro b hb
    cases hb
  | ok m =>
    rw [Trail.bind_of_ok hm, asked_manifest]
    cases hl : (s.marker? layout.lastReplicationName).outcome with
    | error d =>
      rw [Trail.bind_of_error hl, asked_marker?]
      have order : Artifact.all = [.manifest] ++ .lastReplication :: [.replicating] := rfl
      refine .stopped order ?_ ((outcome_marker?_eq_error_iff (by decide)).1 hl)
      intro b hb
      cases List.mem_singleton.1 hb
      exact sound_manifest hm
    | ok last =>
      rw [Trail.bind_of_ok hl, asked_marker?]
      cases hr : (s.marker? layout.replicatingName).outcome with
      | error d =>
        rw [Trail.bind_of_error hr, asked_marker?]
        have order : Artifact.all = [.manifest, .lastReplication] ++ .replicating :: [] := rfl
        refine .stopped order ?_ ((outcome_marker?_eq_error_iff (by decide)).1 hr)
        intro b hb
        rcases List.mem_cons.1 hb with rfl | hb
        · exact sound_manifest hm
        · cases List.mem_singleton.1 hb
          exact sound_marker? (by decide) hl
      | ok since =>
        rw [Trail.bind_of_ok hr, asked_marker?]
        refine .found ?_ (shows_stateOf hm hl hr)
        intro a
        cases a with
        | manifest => exact sound_manifest hm
        | lastReplication => exact sound_marker? (by decide) hl
        | replicating => exact sound_marker? (by decide) hr

/-- Only one trail does. -/
theorem Discovers.unique {t t' : Trail String Failure State}
    (h : s.Discovers layout declared version t) (h' : s.Discovers layout declared version t') :
    t = t' := by
  cases h with
  | found sound shows =>
    cases h' with
    | found _ shows' => rw [shows.unique shows']
    | stopped _ _ flaw => exact absurd flaw (sound _ _)
  | stopped order sound flaw =>
    cases h' with
    | found sound' => exact absurd flaw (sound' _ _)
    | stopped order' sound' flaw' =>
      rcases Artifact.eq_of_all_eq order order' with hmem | hmem | ⟨rfl, rfl⟩
      · exact absurd flaw' (sound _ hmem _)
      · exact absurd flaw (sound' _ hmem _)
      · rw [flaw.unique flaw']

/-- A marker that is missing is no flaw. -/
theorem not_flaw_of_lacks {a : Artifact} (marker : a ≠ .manifest) (h : s.Lacks (a.name layout))
    (d : Failure) : ¬s.Flaw layout a d :=
  sound_marker? marker (outcome_marker?_eq_ok_iff.2 (.missing h)) d

/-- **What discovery is.** It asks for the manifest, the marker of the last replication and the
marker of a running one, in this order and no further than the first that has a flaw; that flaw is
its failure. If none has, the state is what the artifacts show. A marker that is missing is no
flaw. -/
theorem discover_eq_iff {t : Trail String Failure State} :
    (s.discover layout declared version = t ↔ s.Discovers layout declared version t) ∧
    ∀ a : Artifact, a ≠ .manifest → s.Lacks (a.name layout) → ∀ d, ¬s.Flaw layout a d := by
  refine ⟨?_, fun a marker h d => not_flaw_of_lacks marker h d⟩
  constructor
  · intro h
    rw [← h]
    exact discovers s layout declared version
  · intro h
    exact (discovers s layout declared version).unique h

end Source

end Stratum
