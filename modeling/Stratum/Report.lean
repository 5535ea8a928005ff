import Stratum.Repository.State

/-!
# Reports on repositories

What is shown of a repository: one line of a table, or a block with a line for everything that
is known. Names in the table are filled up to the width of their column and never cut; a block
is a list of labelled lines, so that no line can be taken for another.

> `length_fill`: a filled text has at least the width of its column.
-/

namespace Stratum

namespace Report

open Time

/-- A text filled up with spaces to `width` characters. -/
def fill (width : Nat) (s : String) : String :=
  String.ofList (s.toList ++ List.replicate (width - s.length) ' ')

/-- A time as reports show it. -/
def timeText (t : Instant) : String := String.ofList (t.display ++ [' ', 'U', 'T', 'C'])

/-- When the last replication was. -/
def replicationText (s : State) : String :=
  if s.hasBeenReplicated then timeText s.lastReplication else "never"

/-- One repository in one line. -/
def summary (s : State) : String :=
  fill 32 s.fqrn ++ " " ++ s.kind.name ++ " " ++ fill 10 s.version ++ " last replication: " ++
    replicationText s ++ (if s.isReplicating then " (replicating)" else "")

/-- The time of publication, if the manifest has one that can be shown. -/
def publishedText (m : Manifest) : Option String :=
  (m.lastModified.bind fun t => Instant.ofSeconds? t.toInt).map timeText

/-- When the running replication started. -/
def replicatingText (s : State) : String :=
  match s.replicatingSince with
  | some t => "since " ++ timeText t
  | none => "no"

/-- A label of eighteen characters with its value behind it. -/
def labelled (label value : String) : String := fill 18 (label ++ ":") ++ value

/-- Everything that is known of a repository at a place, label and value line by line. -/
def infoFields (location : String) (s : State) : List (String × String) :=
  [some ("Repository", s.fqrn), some ("Location", location), some ("Type", s.kind.name),
    some ("Version", s.version),
    s.manifest.revision.map fun n => ("Revision", Manifest.unsignedText n),
    s.manifest.rootCatalog.map ("Root catalog", ·),
    (publishedText s.manifest).map ("Published", ·),
    some ("Last replication", replicationText s),
    some ("Replicating", replicatingText s)].reduceOption

/-- Lines, each with a line feed behind it. -/
def unlines (ls : List String) : String := String.join (ls.map (· ++ "\n"))

/-- Everything that is known of a repository at a place. -/
def info (location : String) (s : State) : String :=
  unlines ((infoFields location s).map fun (label, value) => labelled label value)

/-- The line under a table. -/
def rule : String := String.ofList (List.replicate 80 '-')

/-- The lines of a table of repositories. -/
def tableLines (ss : List State) : List String :=
  if ss.isEmpty then ["No repositories found."]
  else ss.map summary ++ [rule, toString ss.length ++ " repositories"]

/-- A table of repositories. -/
def table (ss : List State) : String := unlines (tableLines ss)

/-- A text is filled up to the width, or it is wider already. -/
theorem length_fill (width : Nat) (s : String) : width ≤ (fill width s).length := by
  unfold fill
  simp only [String.length_ofList, List.length_append, List.length_replicate, String.length_toList]
  omega

end Report

end Stratum
