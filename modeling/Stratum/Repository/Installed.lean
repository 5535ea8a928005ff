import Stratum.Repository.Local

/-!
# The repositories of a machine

Every directory below the configuration root is a repository. They are opened all together, or
not at all: a list with one of them left out would be taken for the truth. A name that is not text
is read as one, with marks in the place of what cannot be read, and it is this text that is opened.

> `all_of_not_isDir`: without a configuration root nothing is installed.
-/

namespace Stratum.Installed

open Text

/-- Whether a name below the configuration root is seen to be that of a directory. -/
def isCandidate (f : Files) (layout : Layout) (name : Name) : Bool :=
  f.leadsToDir (Path.under layout.root.utf8 name)

/-- The text that a name is read as. -/
def readName (name : Name) : String := String.ofList (Utf8.decodeLossy name)

/-- All repositories below the configuration root, in the order in which its names are read. -/
def all (f : Files) (layout : Layout) : Except Failure (List Local) :=
  if f.isDir layout.root then do
    let listing ← (f.listing layout.root).mapError .io
    let rs ← (listing.names.filter (isCandidate f layout)).mapM (Local.load f layout ∘ readName)
    -- The directories are opened while the root is read, so one of them may fail first.
    match listing.failure with
    | some e => .error (.io e)
    | none => .ok rs
  else .error (.notInstalled layout.root)

/-- Those of them that are stratum 0s, if all of them can be opened. -/
def stratum0s (f : Files) (layout : Layout) : Except Failure (List Local) :=
  (all f layout).map fun rs => rs.filter fun r => r.state.kind == .stratum0

/-- Repositories in the order of their names. -/
def sorted (rs : List Local) : List Local :=
  rs.mergeSort fun a b => decide (a.state.fqrn ≤ b.state.fqrn)

/-- Without a configuration root nothing is installed. -/
theorem all_of_not_isDir {f : Files} {layout : Layout} (h : f.isDir layout.root = false) :
    all f layout = .error (.notInstalled layout.root) := by
  simp [all, h]

end Stratum.Installed
