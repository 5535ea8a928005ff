import Stratum.Proofs.Discovery
import Stratum.Repository.Local

/-!
# Opening a repository of this machine

`Local.load` is the configuration and then discovery among the files of the storage root. Both
halves are taken apart here: `configure_eq_ok_iff` says what a configuration must fulfil, and
`content?_storage` what a directory answers when it is asked for an artifact.

> `missing_load_iff`: a repository is not there exactly if its directory of configuration is
> none, or if it is well configured and has no manifest.
> `declaredKind_of_load`: an open repository is of the kind that its configuration declares.
-/

namespace Stratum.Local

variable {f : Files} {layout : Layout} {fqrn : String}

/-! ## The server configuration -/

/-- Looking up a field never says that the repository is missing. -/
theorem not_missing_read (c : ServerConf) (f : Files) (field : String) :
    ¬Missing (c.read f field) := by
  unfold ServerConf.read ServerConf.ofContent
  split
  · simp [Failure.isNotFound]
  · split <;> simp [Failure.isNotFound]

/-- Nor does looking up a field that may be missing. -/
theorem not_missing_readOptional (c : ServerConf) (f : Files) (field : String) :
    ¬Missing (c.readOptional f field) := by
  have h := not_missing_read c f field
  unfold ServerConf.readOptional
  split
  · exact not_missing_ok _
  · exact not_missing_ok _
  · next e _ he =>
    rw [he, missing_error_iff] at h
    rwa [missing_error_iff]

/-- The declared kind is one of the two known ones, under its name. -/
theorem declaredKind_eq_ok_iff {c : ServerConf} {k : Kind} :
    declaredKind f c = .ok k ↔ k.isKnown = true ∧ c.read f kindField = .ok k.name := by
  unfold declaredKind
  rw [Outcome.bind_eq_ok_iff]
  constructor
  · rintro ⟨declared, hread, h⟩
    split at h
    next hk =>
      cases h
      exact ⟨rfl, Kind.ofName?_eq_some_iff.1 hk ▸ hread⟩
    next hk =>
      cases h
      exact ⟨rfl, Kind.ofName?_eq_some_iff.1 hk ▸ hread⟩
    next => cases h
  · rintro ⟨hknown, hread⟩
    refine ⟨k.name, hread, ?_⟩
    rw [Kind.ofName?_name]
    cases k with
    | stratum0 => rfl
    | stratum1 => rfl
    | unknown => cases hknown

/-- Finding the kind never says that the repository is missing. -/
theorem not_missing_declaredKind (f : Files) (c : ServerConf) : ¬Missing (declaredKind f c) := by
  refine not_missing_bind (not_missing_read _ _ _) fun declared => ?_
  split
  · exact not_missing_ok _
  · exact not_missing_ok _
  · simp [Failure.isNotFound]

/-- Nor does finding the storage. -/
theorem not_missing_declaredStorage (f : Files) (c : ServerConf) :
    ¬Missing (declaredStorage f c) := by
  refine not_missing_bind (not_missing_read _ _ _) fun value => ?_
  refine not_missing_bind ?_ fun spec => ?_
  · unfold readStorage
    split
    · exact not_missing_ok _
    · simp [Failure.isNotFound]
  · split
    · exact not_missing_ok _
    · simp [Failure.isNotFound]

/-- Without its directory a repository is not configured. -/
theorem configure_of_not_isDir (h : f.isDir (layout.confDir fqrn) = false) :
    configure f layout fqrn = .error (.repositoryNotFound fqrn) := by
  unfold configure
  rw [h]
  rfl

/-- With its directory, the three fields count, one after the other. -/
theorem configure_of_isDir (h : f.isDir (layout.confDir fqrn) = true) :
    configure f layout fqrn =
      declaredKind f (confOf layout fqrn) >>= fun kind =>
      declaredStorage f (confOf layout fqrn) >>= fun storageRoot =>
      (confOf layout fqrn).readOptional f versionField >>= fun version =>
      .ok { kind, storageRoot, version := version.getD layout.version } := by
  unfold configure
  rw [h]
  rfl

/-- **What a configuration must fulfil**: the directory is there, the kind and the storage are
declared, and the look-up of the version comes to an end. -/
theorem configure_eq_ok_iff {setup : LocalSetup} :
    configure f layout fqrn = .ok setup ↔
      f.isDir (layout.confDir fqrn) = true ∧
      declaredKind f (confOf layout fqrn) = .ok setup.kind ∧
      declaredStorage f (confOf layout fqrn) = .ok setup.storageRoot ∧
      ∃ version, (confOf layout fqrn).readOptional f versionField = .ok version ∧
        version.getD layout.version = setup.version := by
  cases h : f.isDir (layout.confDir fqrn) with
  | false => simp [configure_of_not_isDir h]
  | true =>
    rw [configure_of_isDir h]
    simp only [Outcome.bind_eq_ok_iff]
    constructor
    · rintro ⟨kind, hk, root, hs, version, hv, h⟩
      cases h
      exact ⟨trivial, hk, hs, version, hv, rfl⟩
    · rintro ⟨-, hk, hs, version, hv, hsetup⟩
      exact ⟨_, hk, _, hs, version, hv, by rw [hsetup]⟩

/-- Only the directory of a configuration can be so missing that the repository is. -/
theorem missing_configure_iff :
    Missing (configure f layout fqrn) ↔ f.isDir (layout.confDir fqrn) = false := by
  cases h : f.isDir (layout.confDir fqrn) with
  | false => simp [configure_of_not_isDir h, Failure.isNotFound]
  | true =>
    rw [configure_of_isDir h]
    refine iff_of_false ?_ Bool.false_ne_true.symm
    refine not_missing_bind (not_missing_declaredKind _ _) fun _ => ?_
    refine not_missing_bind (not_missing_declaredStorage _ _) fun _ => ?_
    exact not_missing_bind (not_missing_readOptional _ _ _) fun _ => not_missing_ok _

/-! ## The storage root -/

/-- What a directory answers when it is asked for an artifact: what is not there is missing, and
what is there has to be a file that can be read. -/
theorem content?_storage (f : Files) (fqrn root name : String) :
    (storage f fqrn root).content? name =
      if f.contains (Path.join root name) then
        ((f.read (Path.join root name)).mapError Failure.io).map some
      else .ok none := by
  unfold Source.content? storage
  cases hc : f.contains (Path.join root name) with
  | false => simp [hc, Source.orNone]
  | true =>
    simp only [hc, if_true]
    cases f.read (Path.join root name) <;> rfl

/-- A directory never answers that the repository is missing. -/
theorem not_missing_content?_storage (f : Files) (fqrn root name : String) :
    ¬Missing ((storage f fqrn root).content? name) := by
  rw [content?_storage]
  split
  · rw [missing_map_iff]
    exact not_missing_mapError fun _ => rfl
  · exact not_missing_ok _

/-- An artifact is missing exactly if nothing is at its path. -/
theorem content?_storage_eq_none_iff {root name : String} :
    (storage f fqrn root).content? name = .ok none ↔ f.contains (Path.join root name) = false := by
  rw [content?_storage]
  cases f.contains (Path.join root name) with
  | false => simp
  | true => simp [Outcome.map_eq_ok_iff]

/-! ## The whole -/

/-- The repository that a configuration and a state make. -/
def opened (layout : Layout) (fqrn : String) (setup : LocalSetup) (state : State) : Local where
  conf := confOf layout fqrn
  storageRoot := setup.storageRoot
  state := { state with fqrn }

/-- Opening is the configuration, and then discovery in its storage root. -/
theorem load_eq (f : Files) (layout : Layout) (fqrn : String) :
    load f layout fqrn =
      configure f layout fqrn >>= fun setup =>
      ((source f fqrn setup).discover layout setup.kind setup.version).outcome.map
        (opened layout fqrn setup) := by
  unfold load
  cases configure f layout fqrn with
  | error e => rfl
  | ok setup =>
    rw [Outcome.ok_bind, Outcome.ok_bind]
    cases ((source f fqrn setup).discover layout setup.kind setup.version).outcome <;> rfl

/-- An open repository is well configured, and its artifacts show its state. -/
theorem load_eq_ok_iff {r : Local} :
    load f layout fqrn = .ok r ↔
      ∃ setup state, configure f layout fqrn = .ok setup ∧
        ((source f fqrn setup).discover layout setup.kind setup.version).outcome = .ok state ∧
        opened layout fqrn setup state = r := by
  rw [load_eq, Outcome.bind_eq_ok_iff]
  constructor
  · rintro ⟨setup, hsetup, h⟩
    obtain ⟨state, hstate, hr⟩ := Outcome.map_eq_ok_iff.1 h
    exact ⟨setup, state, hsetup, hstate, hr⟩
  · rintro ⟨setup, state, hsetup, hstate, hr⟩
    exact ⟨setup, hsetup, Outcome.map_eq_ok_iff.2 ⟨state, hstate, hr⟩⟩

/-- A repository shows itself under the name it was opened by. -/
theorem fqrn_of_load {r : Local} (h : load f layout fqrn = .ok r) : r.state.fqrn = fqrn := by
  obtain ⟨setup, state, -, -, rfl⟩ := load_eq_ok_iff.1 h
  rfl

/-- The name of a configuration must lead to a directory. -/
theorem isDir_of_load {r : Local} (h : load f layout fqrn = .ok r) :
    f.isDir (layout.confDir fqrn) = true := by
  obtain ⟨setup, state, hsetup, -, -⟩ := load_eq_ok_iff.1 h
  exact (configure_eq_ok_iff.1 hsetup).1

/-- **An open repository is of the kind that its configuration declares**: no marker changes a
declared kind. -/
theorem declaredKind_of_load {r : Local} (h : load f layout fqrn = .ok r) :
    declaredKind f (confOf layout fqrn) = .ok r.state.kind := by
  obtain ⟨setup, state, hsetup, hstate, rfl⟩ := load_eq_ok_iff.1 h
  have hkind := (configure_eq_ok_iff.1 hsetup).2.1
  have hknown := (declaredKind_eq_ok_iff.1 hkind).1
  rw [Source.outcome_discover] at hstate
  simp only [Outcome.bind_eq_ok_iff] at hstate
  obtain ⟨_, -, _, -, _, -, last, -, _, -, _, -, hs⟩ := hstate
  cases hs
  rw [hkind]
  exact congrArg Except.ok (Source.resolveKind_of_isKnown hknown last).symm

/-- **When a repository of this machine is not there**: its directory of configuration is none, or
it is well configured and there is no manifest in its storage root. -/
theorem missing_load_iff :
    Missing (load f layout fqrn) ↔
      f.isDir (layout.confDir fqrn) = false ∨
      ∃ setup, configure f layout fqrn = .ok setup ∧
        f.contains (Path.join setup.storageRoot layout.manifestName) = false := by
  rw [load_eq, missing_bind_iff, missing_configure_iff]
  refine or_congr_right (exists_congr fun setup => and_congr_right fun _ => ?_)
  have hs : ∀ name, ¬Missing ((source f fqrn setup).content? name) :=
    not_missing_content?_storage f fqrn setup.storageRoot
  rw [missing_map_iff, Source.missing_discover_iff hs]
  exact content?_storage_eq_none_iff

end Stratum.Local
