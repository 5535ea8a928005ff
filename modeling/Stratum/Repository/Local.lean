import Stratum.Repository.ServerConf
import Stratum.Repository.Source
import Stratum.StorageSpec

/-!
# Local repositories

A repository on this machine has a directory below the configuration root, and in it a server
configuration that says what it is and where its artifacts are. Opening it, `Local.load`, is the
configuration first, `Local.configure`, and then discovery among the artifacts. The name under
which it is configured counts, not the one in the manifest.

> `load_of_configure_error`: what the configuration refuses, no artifact can mend.
-/

namespace Stratum

/-- What the configuration of a local repository says. -/
structure LocalSetup where
  /-- The kind that is declared. -/
  kind : Kind
  /-- The directory of the artifacts. -/
  storageRoot : String
  version : String
deriving DecidableEq, Repr

/-- A local repository that has been opened. -/
structure Local where
  conf : ServerConf
  storageRoot : String
  state : State

namespace Local

/-- The field that declares the kind. -/
def kindField : String := "CVMFS_REPOSITORY_TYPE"

/-- The field that says where the content is. -/
def storageField : String := "CVMFS_UPSTREAM_STORAGE"

/-- The field that says which version made the repository. -/
def versionField : String := "CVMFS_CREATOR_VERSION"

/-- The artifacts in a directory. -/
def storage (f : Files) (fqrn root : String) : Source where
  location := root
  retrieve name :=
    -- What is there but cannot be read is a failure of its own, and not a missing artifact.
    let path := Path.join root name
    if f.contains path then (f.read path).mapError .io
    else .error (.artifactNotFound fqrn name)

/-- The server configuration of a repository. -/
def confOf (layout : Layout) (fqrn : String) : ServerConf := ⟨fqrn, layout.serverConfPath fqrn⟩

/-- The kind that is declared; it must be one of the two. -/
def declaredKind (f : Files) (c : ServerConf) : Except Failure Kind := do
  let declared ← c.read f kindField
  match Kind.ofName? declared with
  | some .stratum0 => return .stratum0
  | some .stratum1 => return .stratum1
  | _ => .error (.unknownKind c.fqrn declared)

/-- The storage that a value describes in the configuration of `fqrn`. -/
def readStorage (fqrn value : String) : Except Failure StorageSpec :=
  match StorageSpec.parse? value with
  | some spec => .ok spec
  | none => .error (.malformedStorage fqrn value)

/-- The directory of the artifacts; the backend must be the local one. -/
def declaredStorage (f : Files) (c : ServerConf) : Except Failure String := do
  let value ← c.read f storageField
  let spec ← readStorage c.fqrn value
  if spec.isLocal then return spec.backendConfig
  else .error (.unknownKind c.fqrn spec.backend)

/-- The configuration of a repository, looked at in this order: its directory, its kind, its
storage, its version. -/
def configure (f : Files) (layout : Layout) (fqrn : String) : Except Failure LocalSetup := do
  if !f.isDir (layout.confDir fqrn) then .error (.repositoryNotFound fqrn)
  let conf := confOf layout fqrn
  let kind ← declaredKind f conf
  let storageRoot ← declaredStorage f conf
  let version ← conf.readOptional f versionField
  return { kind, storageRoot, version := version.getD layout.version }

/-- The artifacts of a repository that is configured so. -/
def source (f : Files) (fqrn : String) (setup : LocalSetup) : Source :=
  storage f fqrn setup.storageRoot

/-- The repository with that name. -/
def load (f : Files) (layout : Layout) (fqrn : String) : Except Failure Local := do
  let setup ← configure f layout fqrn
  let state ← ((source f fqrn setup).discover layout setup.kind setup.version).outcome
  return {
    conf := confOf layout fqrn
    storageRoot := setup.storageRoot
    state := { state with fqrn } }

/-- What the configuration refuses, no artifact can mend. -/
theorem load_of_configure_error {f : Files} {layout : Layout} {fqrn : String} {e : Failure}
    (h : configure f layout fqrn = .error e) : load f layout fqrn = .error e := by
  unfold load
  rw [h]
  rfl

/-- An artifact of an open repository. -/
def retrieve (f : Files) (r : Local) (name : String) : Except Failure Text.Bytes :=
  (storage f r.conf.fqrn r.storageRoot).retrieve name

/-- The name under which the repository shows itself. -/
def display (r : Local) : String := r.state.fqrn

/-- The repository in the words of a log. -/
def describe (r : Local) : String := "<Local Repository " ++ r.state.fqrn ++ ">"

end Local

end Stratum
