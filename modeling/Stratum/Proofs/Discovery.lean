import Stratum.Proofs.Missing
import Stratum.Repository.Source

/-!
# What discovery depends on

Discovery asks a source for three artifacts. All that it learns of each is `Source.content?`:
what the artifact holds, that it is missing, or that asking failed. `outcome_discover` says what
is made of the three answers, and everything about discovery follows from it without looking at
the source again:

> `missing_discover_iff`: the repository is not there exactly if the manifest is missing.
> `alike_discover`: where two sources hold the same artifacts, they show the same repository.

The table in memory, `Source.memory`, is the plainest source, and what the others are compared
with.
-/

namespace Stratum

open Text

/-- The names of the artifacts that discovery asks for. -/
def Layout.artifactNames (l : Layout) : List String :=
  [l.manifestName, l.lastReplicationName, l.replicatingName]

namespace Source

/-- An answer to the question for an artifact, one that is missing told apart from failures. -/
def orNone : Except Failure Bytes → Except Failure (Option Bytes)
  | .ok content => .ok (some content)
  | .error (.artifactNotFound _ _) => .ok none
  | .error e => .error e

/-- What is learned of an artifact: its content, or `none` if it is missing. -/
def content? (s : Source) (name : String) : Except Failure (Option Bytes) :=
  orNone (s.retrieve name)

/-- A table in memory as a source. -/
def memory (location : String) (table : List (String × Bytes)) : Source where
  location
  retrieve name :=
    match table.lookup name with
    | some content => .ok content
    | none => .error (.artifactNotFound location name)

/-- A table has what is in it, and lacks everything else. -/
theorem content?_memory (location : String) (table : List (String × Bytes)) (name : String) :
    (memory location table).content? name = .ok (table.lookup name) := by
  unfold content? memory
  cases h : table.lookup name with
  | none => simp only [h, orNone]
  | some content => simp only [h, orNone]

/-! ## What is made of an artifact -/

/-- The manifest that an artifact holds; without it, the repository at `location` is not there. -/
def manifestOf (location : String) : Option Bytes → Except Failure Manifest
  | none => .error (.repositoryNotFound location)
  | some content => (Manifest.ofBytes content).mapError .badManifest

/-- The time that a marker holds, if there is one. -/
def markerOf : Option Bytes → Except Failure (Option Time.Instant)
  | none => .ok none
  | some content => (readMarker content).map some

/-- The state that the manifest and the times of the markers come to. -/
def stateOf (declared : Kind) (version : String) (manifest : Manifest)
    (last since : Option Time.Instant) : State where
  fqrn := manifest.repositoryName
  kind := resolveKind declared last
  version
  manifest
  lastReplication := last.getD .epoch
  replicatingSince := since

/-- Asking for an artifact that may be missing tells what is to be learned of it. -/
theorem outcome_fetch? (s : Source) (name : String) :
    (s.fetch? name).outcome = s.content? name := by
  unfold fetch? content? orNone
  rfl

/-- A manifest is asked for, and read if it is there. -/
theorem outcome_manifest (s : Source) (name : String) :
    (s.manifest name).outcome = s.content? name >>= manifestOf s.location := by
  unfold manifest
  rw [Trail.outcome_bind, outcome_fetch?]
  cases s.content? name with
  | error e => rfl
  | ok content => cases content <;> rfl

/-- So is a marker. -/
theorem outcome_marker? (s : Source) (name : String) :
    (s.marker? name).outcome = s.content? name >>= markerOf := by
  unfold marker?
  rw [Trail.outcome_bind, outcome_fetch?]
  cases s.content? name with
  | error e => rfl
  | ok content =>
    cases content with
    | none => rfl
    | some content =>
      show (Trail.of (readMarker content) >>= fun t => pure (some t)).outcome = _
      rw [Trail.outcome_bind, Trail.outcome_of]
      show _ = (readMarker content).map some
      cases readMarker content <;> rfl

/-- **Discovery in three steps.** The manifest counts first, then the one marker, then the other;
the first that cannot be had or read decides the failure. -/
theorem outcome_discover (s : Source) (layout : Layout) (declared : Kind) (version : String) :
    (s.discover layout declared version).outcome =
      s.content? layout.manifestName >>= fun m => manifestOf s.location m >>= fun manifest =>
      s.content? layout.lastReplicationName >>= fun l => markerOf l >>= fun last =>
      s.content? layout.replicatingName >>= fun r => markerOf r >>= fun since =>
      .ok (stateOf declared version manifest last since) := by
  unfold discover
  simp only [Trail.outcome_bind, outcome_manifest, outcome_marker?, bind_assoc]
  rfl

/-! ## When the repository is not there -/

/-- No marker says that the repository is missing. -/
theorem not_missing_markerOf (content : Option Bytes) : ¬Missing (markerOf content) := by
  cases content with
  | none => exact not_missing_ok _
  | some content =>
    show ¬Missing ((readMarker content).map some)
    rw [missing_map_iff]
    unfold readMarker readTime
    split
    · simp [Failure.isNotFound]
    · split <;> simp [Failure.isNotFound]

/-- The manifest says so exactly if there is none. -/
theorem missing_manifestOf_iff {location : String} {content : Option Bytes} :
    Missing (manifestOf location content) ↔ content = none := by
  cases content with
  | none => simp [manifestOf, Failure.isNotFound]
  | some content =>
    have h : ¬Missing (manifestOf location (some content)) := not_missing_mapError fun _ => rfl
    simp [h]

/-- **The repository is not there exactly if the manifest is missing**, provided that no answer
of the source says so by itself. -/
theorem missing_discover_iff {s : Source} (hs : ∀ name, ¬Missing (s.content? name))
    (layout : Layout) (declared : Kind) (version : String) :
    Missing (s.discover layout declared version).outcome ↔
      s.content? layout.manifestName = .ok none := by
  rw [outcome_discover, missing_bind_iff]
  constructor
  · rintro (h | ⟨m, hm, h⟩)
    · exact absurd h (hs _)
    · rcases missing_bind_iff.1 h with h | ⟨manifest, -, h⟩
      · rw [hm, missing_manifestOf_iff.1 h]
      · -- behind the manifest come the markers, and none of them can say so
        refine absurd h (not_missing_bind (hs _) fun _ => ?_)
        refine not_missing_bind (not_missing_markerOf _) fun _ => ?_
        refine not_missing_bind (hs _) fun _ => ?_
        exact not_missing_bind (not_missing_markerOf _) fun _ => not_missing_ok _
  · intro h
    refine Or.inr ⟨none, h, ?_⟩
    exact missing_bind_iff.2 (Or.inl (missing_manifestOf_iff.2 rfl))

end Source

/-! ## The same artifacts, the same repository -/

/-- Two outcomes of discovery at the places `a` and `b` that show the same repository: the same
state, up to the name and the version that a machine or a server gives it, or the same failure.
That a repository is missing is said of each place. -/
inductive Alike (a b : String) : Except Failure State → Except Failure State → Prop
  | found {s t : State} (manifest : s.manifest = t.manifest) (kind : s.kind = t.kind)
      (lastReplication : s.lastReplication = t.lastReplication)
      (hasBeenReplicated : s.hasBeenReplicated = t.hasBeenReplicated)
      (replicatingSince : s.replicatingSince = t.replicatingSince) : Alike a b (.ok s) (.ok t)
  | missing : Alike a b (.error (.repositoryNotFound a)) (.error (.repositoryNotFound b))
  | failed {e : Failure} (h : e.isNotFound = false) : Alike a b (.error e) (.error e)

namespace Alike

variable {a b c : String} {x y z : Except Failure State}

/-- What is alike from the left is alike from the right. -/
theorem symm (h : Alike a b x y) : Alike b a y x := by
  cases h with
  | found h₁ h₂ h₃ h₄ h₅ => exact found h₁.symm h₂.symm h₃.symm h₄.symm h₅.symm
  | missing => exact missing
  | failed h => exact failed h

/-- What is alike to the same is alike. -/
theorem trans (h : Alike a b x y) (h' : Alike b c y z) : Alike a c x z := by
  cases h with
  | found h₁ h₂ h₃ h₄ h₅ =>
    cases h' with
    | found k₁ k₂ k₃ k₄ k₅ =>
      exact found (h₁.trans k₁) (h₂.trans k₂) (h₃.trans k₃) (h₄.trans k₄) (h₅.trans k₅)
  | missing =>
    cases h' with
    | missing => exact missing
    | failed h => cases h
  | failed h =>
    cases h' with
    | missing => cases h
    | failed => exact failed h

/-- The name does not matter. -/
theorem rename (h : Alike a b x y) (name : String) :
    Alike a b x (y.map fun s => { s with fqrn := name }) := by
  cases h with
  | found h₁ h₂ h₃ h₄ h₅ => exact found h₁ h₂ h₃ h₄ h₅
  | missing => exact missing
  | failed h => exact failed h

end Alike

/-- **Where two sources hold the same artifacts, they show the same repository**, whatever the
artifacts hold: a step that fails at one of them fails at the other, and in the same way. -/
theorem Source.alike_discover {s t : Source} {layout : Layout} {held : String → Option Bytes}
    (hs : ∀ name ∈ layout.artifactNames, s.content? name = .ok (held name))
    (ht : ∀ name ∈ layout.artifactNames, t.content? name = .ok (held name))
    (declared : Kind) (version version' : String) :
    Alike s.location t.location (s.discover layout declared version).outcome
      (t.discover layout declared version').outcome := by
  have failed {x : Except Failure (Option Time.Instant)} (hx : ¬Missing x) {e : Failure}
      (he : x = .error e) : e.isNotFound = false := by
    rw [he, missing_error_iff] at hx
    exact Bool.eq_false_iff.2 hx
  have hm : layout.manifestName ∈ layout.artifactNames := by simp [Layout.artifactNames]
  have hl : layout.lastReplicationName ∈ layout.artifactNames := by simp [Layout.artifactNames]
  have hr : layout.replicatingName ∈ layout.artifactNames := by simp [Layout.artifactNames]
  rw [outcome_discover, outcome_discover, hs _ hm, hs _ hl, hs _ hr, ht _ hm, ht _ hl, ht _ hr]
  simp only [Outcome.ok_bind]
  cases held layout.manifestName with
  | none => exact Alike.missing
  | some content =>
    simp only [manifestOf]
    cases Manifest.ofBytes content with
    | error e => exact Alike.failed rfl
    | ok manifest =>
      show Alike _ _ (markerOf (held layout.lastReplicationName) >>= _)
        (markerOf (held layout.lastReplicationName) >>= _)
      cases hlast : markerOf (held layout.lastReplicationName) with
      | error e => exact Alike.failed (failed (not_missing_markerOf _) hlast)
      | ok last =>
        simp only [Outcome.ok_bind]
        cases hsince : markerOf (held layout.replicatingName) with
        | error e => exact Alike.failed (failed (not_missing_markerOf _) hsince)
        | ok since => exact Alike.found rfl rfl rfl rfl rfl

end Stratum
