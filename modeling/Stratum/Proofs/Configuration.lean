import Stratum.Proofs.LocalOpening

/-!
# The configuration stage

Opening a repository of this machine has two stages, and this file draws the line between them.
First its configuration is looked at, in four checks, and `Fault` lists what each of them can find,
together with the failure that it amounts to. Only if none of them finds anything does discovery
look at the artifacts, and then what comes of the opening is what comes of discovery.

The checks read one file, but each reads it on its own and only as far as it has to. So a line that
is no text may stop one of them and not another, and the first that is stopped names the failure.

> `load_stages`: an opening fails by the first fault of the configuration, or it is discovery. In
> the first case nothing but the configuration bears on it, and in the second the artifacts have no
> say in the kind.
-/

namespace Stratum.Local

open Text

/-- What is looked at before any artifact. -/
inductive Check where
  | directory
  | kind
  | storage
  | version
deriving DecidableEq

namespace Check

/-- The checks in the order in which they are made. -/
def all : List Check := [directory, kind, storage, version]

/-- The field that a check looks up. -/
def field? : Check → Option String
  | directory => none
  | kind => some kindField
  | storage => some storageField
  | version => some versionField

end Check

/-- The ways in which a field of the server configuration cannot be had. -/
inductive Lost (f : Files) (layout : Layout) (fqrn field : String) : Failure → Prop
  | unreadable {cause : IoError} (h : f.read (layout.serverConfPath fqrn) = .error cause) :
    Lost f layout fqrn field (.io cause)
  /-- A line is no text, and the field is not in the lines before it. -/
  | noText {content : Bytes} (h : f.read (layout.serverConfPath fqrn) = .ok content)
    (hfield : lookupField field.toList (Line.ofBytes content) = .notUtf8) :
    Lost f layout fqrn field (.io .notUtf8)
  | missing {content : Bytes} (h : f.read (layout.serverConfPath fqrn) = .ok content)
    (hfield : lookupField field.toList (Line.ofBytes content) = .missing) :
    Lost f layout fqrn field (.fieldNotFound fqrn field)

/-- All that a check can find fault with, and the failure that it amounts to. -/
inductive Fault (f : Files) (layout : Layout) (fqrn : String) : Check → Failure → Prop
  | noDirectory (h : f.isDir (layout.confDir fqrn) = false) :
    Fault f layout fqrn .directory (.repositoryNotFound fqrn)
  /-- A field cannot be had. Only the version may be missing. -/
  | lost {check : Check} {field : String} {e : Failure} (looks : check.field? = some field)
    (h : Lost f layout fqrn field e) (needed : check = .version → e ≠ .fieldNotFound fqrn field) :
    Fault f layout fqrn check e
  | otherKind {declared : String} (h : (confOf layout fqrn).read f kindField = .ok declared)
    (other : declared ≠ "stratum0" ∧ declared ≠ "stratum1") :
    Fault f layout fqrn .kind (.unknownKind fqrn declared)
  | malformed {value : String} (h : (confOf layout fqrn).read f storageField = .ok value)
    (parts : (StorageSpec.pieces value).length ≠ 3) :
    Fault f layout fqrn .storage (.malformedStorage fqrn value)
  | otherBackend {value : String} {backend scratchDir backendConfig : List Char}
    (h : (confOf layout fqrn).read f storageField = .ok value)
    (parts : StorageSpec.pieces value = [backend, scratchDir, backendConfig])
    (other : String.ofList backend ≠ "local") :
    Fault f layout fqrn .storage (.unknownKind fqrn (String.ofList backend))

/-- The first check that finds fault with a configuration amounts to this failure. -/
def Refused (f : Files) (layout : Layout) (fqrn : String) (e : Failure) : Prop :=
  ∃ before check after, Check.all = before ++ check :: after ∧
    (∀ c ∈ before, ∀ d, ¬Fault f layout fqrn c d) ∧ Fault f layout fqrn check e

/-- What a configuration says, field by field, if no check finds fault with it. -/
structure Configures (f : Files) (layout : Layout) (fqrn : String) (setup : LocalSetup) : Prop where
  sound : ∀ c d, ¬Fault f layout fqrn c d
  known : setup.kind = .stratum0 ∨ setup.kind = .stratum1
  kind : (confOf layout fqrn).read f kindField = .ok setup.kind.name
  storage : ∃ value scratchDir, (confOf layout fqrn).read f storageField = .ok value ∧
    StorageSpec.pieces value = ["local".toList, scratchDir, setup.storageRoot.toList]
  /-- The version is the one that is declared, or that of the layout where none is. -/
  version : (confOf layout fqrn).read f versionField = .ok setup.version ∨
    (confOf layout fqrn).read f versionField = .error (.fieldNotFound fqrn versionField) ∧
      setup.version = layout.version

/-- Two machines have the same configuration under a name. -/
structure SameConfiguration (f g : Files) (layout : Layout) (fqrn : String) : Prop where
  isDir : f.isDir (layout.confDir fqrn) = g.isDir (layout.confDir fqrn)
  read : f.read (layout.serverConfPath fqrn) = g.read (layout.serverConfPath fqrn)

variable {f g : Files} {layout : Layout} {fqrn : String}

/-! ## One check -/

/-- A field is lost exactly if reading it fails. -/
theorem read_eq_error_iff {field : String} {e : Failure} :
    (confOf layout fqrn).read f field = .error e ↔ Lost f layout fqrn field e := by
  have hpath : (confOf layout fqrn).path = layout.serverConfPath fqrn := rfl
  unfold ServerConf.read ServerConf.ofContent
  rw [hpath]
  constructor
  · intro h
    split at h
    next cause hcause =>
      cases h
      exact .unreadable hcause
    next content hcontent =>
      split at h
      next => cases h
      next hfield =>
        cases h
        exact .missing hcontent hfield
      next hfield =>
        cases h
        exact .noText hcontent hfield
  · intro h
    cases h with
    | unreadable h => simp only [h]
    | noText h hfield => simp only [h, hfield]
    | missing h hfield => simp only [h, hfield, confOf]

/-- The directory is at fault exactly if it is not seen as one. -/
theorem fault_directory_iff {e : Failure} :
    Fault f layout fqrn .directory e ↔
      f.isDir (layout.confDir fqrn) = false ∧ e = .repositoryNotFound fqrn := by
  constructor
  · intro h
    cases h with
    | noDirectory h => exact ⟨h, rfl⟩
    | lost looks => cases looks
  · intro h
    obtain ⟨h, rfl⟩ := h
    exact .noDirectory h

/-- The kind is at fault exactly if there is none to read. -/
theorem declaredKind_eq_error_iff {e : Failure} :
    declaredKind f (confOf layout fqrn) = .error e ↔ Fault f layout fqrn .kind e := by
  unfold declaredKind
  rw [Outcome.bind_eq_error_iff]
  constructor
  · intro h
    rcases h with h | ⟨declared, hread, h⟩
    · exact .lost rfl (read_eq_error_iff.1 h) nofun
    · have other (k : Kind) (hk : Kind.ofName? declared ≠ some k) : declared ≠ k.name := by
        intro hname
        exact hk (Kind.ofName?_eq_some_iff.2 hname)
      split at h
      next => cases h
      next => cases h
      next h0 h1 =>
        cases h
        exact .otherKind hread ⟨other .stratum0 h0, other .stratum1 h1⟩
  · intro h
    cases h with
    | lost looks h =>
      cases looks
      exact Or.inl (read_eq_error_iff.2 h)
    | otherKind hread other =>
      refine Or.inr ⟨_, hread, ?_⟩
      split
      next h0 => exact absurd (Kind.ofName?_eq_some_iff.1 h0) other.1
      next h1 => exact absurd (Kind.ofName?_eq_some_iff.1 h1) other.2
      next => rfl

/-- A value that describes a storage has three pieces, and the storage has them as its parts. -/
theorem readStorage_eq_ok_iff {value : String} {spec : StorageSpec} :
    readStorage fqrn value = .ok spec ↔
      StorageSpec.pieces value =
        [spec.backend.toList, spec.scratchDir.toList, spec.backendConfig.toList] := by
  unfold readStorage StorageSpec.parse?
  constructor
  · intro h
    split at h
    next spec' hspec =>
      cases h
      split at hspec
      next b t c hparts =>
        cases hspec
        simp only [hparts, String.toList_ofList]
      next => cases hspec
    next => cases h
  · intro h
    simp only [h, String.ofList_toList]

/-- A storage is malformed exactly if it has not three pieces. -/
theorem readStorage_eq_error_iff {value : String} {e : Failure} :
    readStorage fqrn value = .error e ↔
      (StorageSpec.pieces value).length ≠ 3 ∧ e = .malformedStorage fqrn value := by
  have hsome := StorageSpec.parse?_isSome_iff (s := value)
  unfold readStorage
  rw [ne_eq, ← hsome]
  cases StorageSpec.parse? value with
  | none => simp [eq_comm]
  | some spec => simp

/-- The storage is at fault exactly if there is none to read. -/
theorem declaredStorage_eq_error_iff {e : Failure} :
    declaredStorage f (confOf layout fqrn) = .error e ↔ Fault f layout fqrn .storage e := by
  unfold declaredStorage
  rw [Outcome.bind_eq_error_iff]
  constructor
  · intro h
    rcases h with h | ⟨value, hread, h⟩
    · exact .lost rfl (read_eq_error_iff.1 h) nofun
    · rcases Outcome.bind_eq_error_iff.1 h with h | ⟨spec, hspec, h⟩
      · obtain ⟨hparts, rfl⟩ := readStorage_eq_error_iff.1 h
        exact .malformed hread hparts
      · have hparts := readStorage_eq_ok_iff.1 hspec
        split at h
        next => cases h
        next other =>
          cases h
          rw [StorageSpec.isLocal, beq_iff_eq] at other
          have hbackend : String.ofList spec.backend.toList = spec.backend := String.ofList_toList
          have hfault := Fault.otherBackend hread hparts (by rwa [hbackend])
          rwa [hbackend] at hfault
  · intro h
    cases h with
    | lost looks h =>
      cases looks
      exact Or.inl (read_eq_error_iff.2 h)
    | malformed hread hparts =>
      refine Or.inr ⟨_, hread, Outcome.bind_eq_error_iff.2 (Or.inl ?_)⟩
      exact readStorage_eq_error_iff.2 ⟨hparts, rfl⟩
    | @otherBackend value backend scratchDir backendConfig hread hparts other =>
      have hspec : readStorage fqrn value =
          .ok ⟨String.ofList backend, String.ofList scratchDir, String.ofList backendConfig⟩ := by
        refine readStorage_eq_ok_iff.2 ?_
        simp only [hparts, String.toList_ofList]
      refine Or.inr ⟨_, hread, Outcome.bind_eq_error_iff.2 (Or.inr ⟨_, hspec, ?_⟩)⟩
      rw [if_neg]
      · rfl
      · rwa [StorageSpec.isLocal, beq_iff_eq]

/-- A storage root is the last of three pieces, of which the first says that it is local. -/
theorem declaredStorage_eq_ok_iff {root : String} :
    declaredStorage f (confOf layout fqrn) = .ok root ↔
      ∃ value scratchDir, (confOf layout fqrn).read f storageField = .ok value ∧
        StorageSpec.pieces value = ["local".toList, scratchDir, root.toList] := by
  unfold declaredStorage
  rw [Outcome.bind_eq_ok_iff]
  constructor
  · intro h
    obtain ⟨value, hread, h⟩ := h
    obtain ⟨spec, hspec, h⟩ := Outcome.bind_eq_ok_iff.1 h
    split at h
    next hlocal =>
      cases h
      rw [StorageSpec.isLocal, beq_iff_eq] at hlocal
      exact ⟨value, _, hread, hlocal ▸ readStorage_eq_ok_iff.1 hspec⟩
    next => cases h
  · intro h
    obtain ⟨value, scratchDir, hread, hparts⟩ := h
    have hspec : readStorage fqrn value = .ok ⟨"local", String.ofList scratchDir, root⟩ := by
      refine readStorage_eq_ok_iff.2 ?_
      simp only [hparts, String.toList_ofList]
    refine ⟨value, hread, Outcome.bind_eq_ok_iff.2 ⟨_, hspec, ?_⟩⟩
    rfl

/-- The version is at fault exactly if it is lost, and not for being missing. -/
theorem readOptional_eq_error_iff {e : Failure} :
    (confOf layout fqrn).readOptional f versionField = .error e ↔
      Fault f layout fqrn .version e := by
  unfold ServerConf.readOptional
  constructor
  · intro h
    split at h
    next => cases h
    next => cases h
    next d hother hd =>
      cases h
      refine .lost rfl (read_eq_error_iff.1 hd) ?_
      intro _ hmissing
      exact hother _ _ hmissing
  · intro h
    cases h with
    | lost looks h needed =>
      cases looks
      rw [read_eq_error_iff.2 h]
      cases h with
      | unreadable => rfl
      | noText => rfl
      | missing => exact absurd rfl (needed rfl)

theorem readOptional_eq_ok_iff {version? : Option String} :
    (confOf layout fqrn).readOptional f versionField = .ok version? ↔
      match version? with
      | some version => (confOf layout fqrn).read f versionField = .ok version
      | none => (confOf layout fqrn).read f versionField =
          .error (.fieldNotFound fqrn versionField) := by
  cases version? with
  | none => exact ServerConf.readOptional_eq_none_iff
  | some version =>
    unfold ServerConf.readOptional
    constructor
    · intro h
      split at h
      next value hvalue =>
        cases h
        exact hvalue
      next => cases h
      next => cases h
    · intro h
      rw [h]

/-! ## All of them -/

/-- Where a check comes to an end, it finds no fault. -/
theorem not_fault_of_ok {α : Type} {x : Except Failure α} {a : α} {c : Check}
    (hiff : ∀ {e}, x = .error e ↔ Fault f layout fqrn c e) (h : x = .ok a) (d : Failure) :
    ¬Fault f layout fqrn c d := by
  intro hfault
  rw [hiff.2 hfault] at h
  cases h

theorem not_fault_directory (h : f.isDir (layout.confDir fqrn) = true) (d : Failure) :
    ¬Fault f layout fqrn .directory d := by
  intro hfault
  have hfalse := (fault_directory_iff.1 hfault).1
  rw [h] at hfalse
  cases hfalse

/-- A failure is that of the first check that fails. -/
theorem refused_of_configure {e : Failure} (h : configure f layout fqrn = .error e) :
    Refused f layout fqrn e := by
  cases hdir : f.isDir (layout.confDir fqrn) with
  | false =>
    rw [configure_of_not_isDir hdir] at h
    cases h
    exact ⟨[], .directory, [.kind, .storage, .version], rfl, List.forall_mem_nil _,
      .noDirectory hdir⟩
  | true =>
    -- What a check has come to is handed on, so each one adds itself to those that found nothing.
    have sound_directory := not_fault_directory hdir
    rw [configure_of_isDir hdir] at h
    rcases Outcome.bind_eq_error_iff.1 h with h | ⟨kind, hkind, h⟩
    · exact ⟨[.directory], .kind, [.storage, .version], rfl,
        List.forall_mem_singleton.2 sound_directory, declaredKind_eq_error_iff.1 h⟩
    have sound_kind := not_fault_of_ok declaredKind_eq_error_iff hkind
    rcases Outcome.bind_eq_error_iff.1 h with h | ⟨root, hroot, h⟩
    · refine ⟨[.directory, .kind], .storage, [.version], rfl, ?_, declaredStorage_eq_error_iff.1 h⟩
      exact List.forall_mem_cons.2 ⟨sound_directory, List.forall_mem_singleton.2 sound_kind⟩
    have sound_storage := not_fault_of_ok declaredStorage_eq_error_iff hroot
    rcases Outcome.bind_eq_error_iff.1 h with h | ⟨version, -, h⟩
    · refine ⟨[.directory, .kind, .storage], .version, [], rfl, ?_,
        readOptional_eq_error_iff.1 h⟩
      exact List.forall_mem_cons.2 ⟨sound_directory,
        List.forall_mem_cons.2 ⟨sound_kind, List.forall_mem_singleton.2 sound_storage⟩⟩
    · cases h

/-- A success has passed them all. -/
theorem configures_of_configure {setup : LocalSetup} (h : configure f layout fqrn = .ok setup) :
    Configures f layout fqrn setup := by
  obtain ⟨hdir, hkind, hroot, version?, hversion, hsetup⟩ := configure_eq_ok_iff.1 h
  obtain ⟨hknown, hname⟩ := declaredKind_eq_ok_iff.1 hkind
  refine ⟨?_, ?_, hname, declaredStorage_eq_ok_iff.1 hroot, ?_⟩
  · intro c
    cases c with
    | directory => exact not_fault_directory hdir
    | kind => exact not_fault_of_ok declaredKind_eq_error_iff hkind
    | storage => exact not_fault_of_ok declaredStorage_eq_error_iff hroot
    | version => exact not_fault_of_ok readOptional_eq_error_iff hversion
  · cases hk : setup.kind with
    | stratum0 => exact Or.inl rfl
    | stratum1 => exact Or.inr rfl
    | unknown =>
      rw [hk] at hknown
      cases hknown
  · have hread := readOptional_eq_ok_iff.1 hversion
    cases version? with
    | none => exact Or.inr ⟨hread, hsetup.symm⟩
    | some version =>
      cases hsetup
      exact Or.inl hread

/-- The configuration stage knows nothing of a machine but the configuration. -/
theorem SameConfiguration.configure_eq (h : SameConfiguration f g layout fqrn) :
    configure f layout fqrn = configure g layout fqrn := by
  have hpath : (confOf layout fqrn).path = layout.serverConfPath fqrn := rfl
  have hread (field : String) :
      (confOf layout fqrn).read f field = (confOf layout fqrn).read g field := by
    unfold ServerConf.read
    rw [hpath, h.read]
  unfold configure declaredKind declaredStorage ServerConf.readOptional
  simp only [h.isDir, hread]

/-- **Configuration first, then discovery.** An opening is refused by the first check that finds
fault with the configuration, and then on every machine with the same configuration, whatever else
is there; or no check finds fault, and it is the discovery of what the storage root holds, with the
kind and the version that are configured and under the configured name. So an open repository is
of the kind that is declared, a stratum 0 or a stratum 1, whatever its artifacts say. -/
theorem load_stages (f : Files) (layout : Layout) (fqrn : String) :
    ((∃ e, Refused f layout fqrn e ∧ load f layout fqrn = .error e ∧
        ∀ g, SameConfiguration f g layout fqrn → load g layout fqrn = .error e) ∨
      ∃ setup, Configures f layout fqrn setup ∧
        load f layout fqrn =
          ((storage f fqrn setup.storageRoot).discover layout setup.kind setup.version).outcome.map
            fun state => ⟨confOf layout fqrn, setup.storageRoot, { state with fqrn }⟩) ∧
    ∀ r, load f layout fqrn = .ok r → (r.state.kind = .stratum0 ∨ r.state.kind = .stratum1) ∧
      (confOf layout fqrn).read f kindField = .ok r.state.kind.name := by
  constructor
  · cases hsetup : configure f layout fqrn with
    | error e =>
      refine Or.inl ⟨e, refused_of_configure hsetup, load_of_configure_error hsetup, ?_⟩
      intro g hg
      rw [hg.configure_eq] at hsetup
      exact load_of_configure_error hsetup
    | ok setup =>
      refine Or.inr ⟨setup, configures_of_configure hsetup, ?_⟩
      rw [load_eq, hsetup, Outcome.ok_bind]
      rfl
  · intro r h
    obtain ⟨setup, -, hsetup, -, -⟩ := load_eq_ok_iff.1 h
    have hkind := declaredKind_of_load h
    obtain ⟨-, hdeclared, -⟩ := configure_eq_ok_iff.1 hsetup
    have heq : setup.kind = r.state.kind := Except.ok.inj (hdeclared.symm.trans hkind)
    have hconfigures := configures_of_configure hsetup
    exact ⟨heq ▸ hconfigures.known, heq ▸ hconfigures.kind⟩

end Stratum.Local
