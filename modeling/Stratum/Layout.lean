import Stratum.Files.Path

/-!
# The layout of an installation

Where the configuration of repositories is, how the files and artifacts are called that are
looked at, and below which path a server answers control requests. A layout holds all these
names, so nothing else in the library fixes one.

> `get_set`: writing a field changes that field and no other.
-/

namespace Stratum

/-- The names and places of an installation; the defaults are those of the stock server. -/
structure Layout where
  /-- The directory with one configuration directory for each local repository. -/
  root : String := "/etc/cvmfs/repositories.d"
  /-- The file of fields inside a configuration directory. -/
  serverConfName : String := "server.conf"
  /-- The artifact that holds the manifest. -/
  manifestName : String := ".cvmfspublished"
  /-- The marker that is written after each replication. -/
  lastReplicationName : String := ".cvmfs_last_snapshot"
  /-- The marker that is there while a replication runs. -/
  replicatingName : String := ".cvmfs_is_snapshotting"
  /-- The path of the control interface, seen from the URL of a repository. -/
  connector : String := "control"
  /-- The version of a local repository that does not say which one made it. -/
  version : String := "unknown"
deriving DecidableEq, Repr

namespace Layout

/-- The layout with another root. -/
def withRoot (l : Layout) (root : String) : Layout := { l with root }

/-- The configuration directory of a repository. -/
def confDir (l : Layout) (fqrn : String) : String := Path.join l.root fqrn

/-- The path of a repository's server configuration. -/
def serverConfPath (l : Layout) (fqrn : String) : String :=
  Path.join (l.confDir fqrn) l.serverConfName

/-- One field of a layout. -/
inductive Field where
  | root
  | serverConfName
  | manifestName
  | lastReplicationName
  | replicatingName
  | connector
  | version
deriving DecidableEq, Repr

namespace Field

/-- The fields in the order in which they are written. -/
def all : List Field :=
  [root, serverConfName, manifestName, lastReplicationName, replicatingName, connector, version]

/-- The name of a field in layout files. -/
def name : Field → String
  | root => "config_root"
  | serverConfName => "server_config_name"
  | manifestName => "manifest_name"
  | lastReplicationName => "last_replication_name"
  | replicatingName => "replicating_name"
  | connector => "rest_connector"
  | version => "server_version"

/-- The field with a name. -/
def ofName? (s : String) : Option Field := all.find? (·.name == s)

/-- A name that is written is read back. -/
theorem ofName?_name (f : Field) : ofName? f.name = some f := by cases f <;> rfl

end Field

/-- The value of a field. -/
def get (l : Layout) : Field → String
  | .root => l.root
  | .serverConfName => l.serverConfName
  | .manifestName => l.manifestName
  | .lastReplicationName => l.lastReplicationName
  | .replicatingName => l.replicatingName
  | .connector => l.connector
  | .version => l.version

/-- The layout with another value in a field. -/
def set (l : Layout) (value : String) : Field → Layout
  | .root => { l with root := value }
  | .serverConfName => { l with serverConfName := value }
  | .manifestName => { l with manifestName := value }
  | .lastReplicationName => { l with lastReplicationName := value }
  | .replicatingName => { l with replicatingName := value }
  | .connector => { l with connector := value }
  | .version => { l with version := value }

/-- Writing a field changes that field and no other. -/
theorem get_set (l : Layout) (f g : Field) (value : String) :
    (l.set value f).get g = if f = g then value else l.get g := by
  cases f <;> cases g <;> rfl

end Layout

end Stratum
