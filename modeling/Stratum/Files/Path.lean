import Stratum.Text.Utf8

/-!
# Paths

A path is a byte string with its names between slashes; it need not be text. Joining follows the
rule of the operating system: an absolute second part stands for itself, and no slash is put where
one is already.

> `join_absolute`, `join_empty`: the two cases in which the parts do not simply follow each
> other.
-/

namespace Stratum

open Text

/-- The name of something in a directory. -/
abbrev Name := Bytes

namespace Path

/-- The byte between names. -/
def slash : UInt8 := 0x2f

/-- The name of a directory in itself. -/
def self : Name := [0x2e]

/-- The name of the directory that a directory is in. -/
def parent : Name := [0x2e, 0x2e]

/-- Whether a path starts at the root. -/
def isAbsolute (p : Bytes) : Bool := p.head? == some slash

/-- Whether a slash has to be written behind `p` before a name. -/
def needsSlash (p : Bytes) : Bool := p.getLast?.any (· != slash)

/-- The path `q` as seen from the directory `p`. -/
def under (p q : Bytes) : Bytes :=
  if isAbsolute q then q else if needsSlash p then p ++ slash :: q else p ++ q

/-- The same of paths that are texts. -/
def join (p q : String) : String :=
  if isAbsolute q.utf8 then q else if needsSlash p.utf8 then p ++ "/" ++ q else p ++ q

/-- The names of a path between its slashes. A slash at the end demands a directory there, which
is what an empty name stands for. -/
def components (p : Bytes) : List Name :=
  let names := (p.splitOn slash).filter (!·.isEmpty)
  if p.getLast? == some slash then names ++ [[]] else names

/-- Bytes that cannot be in a name. -/
def isReserved (b : UInt8) : Bool := b == slash || b == 0

/-- Whether a byte string can be the name of something in a directory. -/
def isName (n : Name) : Bool := !n.isEmpty && n != self && n != parent && !n.any isReserved

/-- An absolute second part stands for itself. -/
theorem join_absolute (p : String) {q : String} (h : isAbsolute q.utf8 = true) : join p q = q :=
  if_pos h

/-- An empty second part puts a slash at the end. -/
theorem join_empty (p : String) : join p "" = if needsSlash p.utf8 then p ++ "/" else p := by
  unfold join
  simp [show isAbsolute "".utf8 = false from rfl]

end Path

end Stratum
