import Stratum.Failure
import Stratum.Layout
import Stratum.Repository.State
import Stratum.Text.Lines
import Stratum.Time.Timestamp
import Stratum.Trail

/-!
# Artifact sources and discovery

A source hands out the artifacts of one repository by name. It may be a directory, a web
server or a table in memory: discovery uses nothing but `retrieve`, so the same artifacts give
the same state wherever they come from. The manifest says who the repository is, one marker
when it was last replicated, and another whether it is being replicated.

> `resolveKind_of_isKnown`: no marker changes a declared kind.
-/

namespace Stratum

open Text

/-- Something that hands out the artifacts of a repository. -/
structure Source where
  /-- The path or URL of the artifacts. -/
  location : String
  /-- The content of an artifact; a missing one is reported as `artifactNotFound`. -/
  retrieve : String → Except Failure Bytes

namespace Source

/-- Asks for an artifact. -/
def fetch (s : Source) (name : String) : Trail String Failure Bytes :=
  Trail.ask name (s.retrieve name)

/-- Asks for an artifact that may be missing. -/
def fetch? (s : Source) (name : String) : Trail String Failure (Option Bytes) :=
  Trail.ask name <|
    match s.retrieve name with
    | .ok content => .ok (some content)
    | .error (.artifactNotFound _ _) => .ok none
    | .error e => .error e

/-- The text of the first line of a marker, which alone has to be text. -/
def markerText? (content : Bytes) : Option (List Char) := Utf8.decode? (Line.first content)

/-- The time that a text gives; a failure names the text without surrounding blanks. -/
def readTime (text : List Char) : Except Failure Time.Instant :=
  match Time.Timestamp.read? text with
  | some t => .ok t
  | none => .error (.badTimestamp (String.ofList (trim text)))

/-- The time that a marker holds. -/
def readMarker (content : Bytes) : Except Failure Time.Instant :=
  match markerText? content with
  | none => .error (.io .notUtf8)
  | some text => readTime text

/-- The time of a marker that may be missing. -/
def marker? (s : Source) (name : String) : Trail String Failure (Option Time.Instant) := do
  match ← s.fetch? name with
  | none => return none
  | some content => return some (← Trail.of (readMarker content))

/-- The manifest; without one there is no repository. -/
def manifest (s : Source) (name : String) : Trail String Failure Manifest := do
  match ← s.fetch? name with
  | none => Trail.fail (.repositoryNotFound s.location)
  | some content => Trail.of ((Manifest.ofBytes content).mapError .badManifest)

/-- The kind of a repository that is declared as `declared`: an undeclared one that has been
replicated is a replica. -/
def resolveKind (declared : Kind) (lastReplication : Option Time.Instant) : Kind :=
  if declared.isKnown || lastReplication.isNone then declared else .stratum1

/-- No marker changes a declared kind. -/
theorem resolveKind_of_isKnown {declared : Kind} (h : declared.isKnown = true)
    (last : Option Time.Instant) : resolveKind declared last = declared := by
  simp [resolveKind, h]

/-- The state of the repository whose artifacts the source hands out. -/
def discover (s : Source) (layout : Layout) (declared : Kind) (version : String) :
    Trail String Failure State := do
  -- The manifest comes first: without it the markers are not asked for.
  let manifest ← s.manifest layout.manifestName
  let last ← s.marker? layout.lastReplicationName
  let since ← s.marker? layout.replicatingName
  return {
    fqrn := manifest.repositoryName
    kind := resolveKind declared last
    version
    manifest
    lastReplication := last.getD .epoch
    replicatingSince := since }

end Source

end Stratum
