/-!
# Where a repository stores its content

A server configuration names the storage in three parts with commas between them: the
backend, a directory for unfinished transactions, and what the backend has to know. For the
local backend the third part is the directory of the content.

> `parse?_isSome_iff`: a text is read exactly if it has three pieces between commas.
-/

namespace Stratum

/-- The parts of a storage specification. -/
structure StorageSpec where
  backend : String
  scratchDir : String
  backendConfig : String
deriving DecidableEq, Repr

namespace StorageSpec

/-- The pieces of a text between commas. -/
def pieces (s : String) : List (List Char) := s.toList.splitOn ','

/-- Reads the three parts; a part may be empty, and blanks belong to it. -/
def parse? (s : String) : Option StorageSpec :=
  match pieces s with
  | [b, t, c] => some ⟨String.ofList b, String.ofList t, String.ofList c⟩
  | _ => none

/-- Whether the content is in a directory of this machine. -/
def isLocal (s : StorageSpec) : Bool := s.backend == "local"

/-- Three pieces make a specification, no more and no less. -/
theorem parse?_isSome_iff {s : String} : (parse? s).isSome ↔ (pieces s).length = 3 := by
  unfold parse?
  match pieces s with
  | [] | [_] | [_, _] | [_, _, _] | _ :: _ :: _ :: _ :: _ => simp

end StorageSpec

end Stratum
