/-!
# Kinds of repositories

A repository is authored at its stratum 0 and replicated to stratum 1 servers. A server that
does not say what it is leaves the kind unknown.

> `ofName?_eq_some_iff`: the three names are read back, and nothing else is a name.
-/

namespace Stratum

/-- The role of a repository in its distribution. -/
inductive Kind where
  /-- The place where the content is authored. -/
  | stratum0
  /-- A replica of a stratum 0. -/
  | stratum1
  | unknown
deriving DecidableEq, Repr

namespace Kind

/-- The name of a kind. -/
def name : Kind → String
  | stratum0 => "stratum0"
  | stratum1 => "stratum1"
  | unknown => "unknown"

/-- The kind with a name, spelled exactly so. -/
def ofName? (s : String) : Option Kind :=
  if s = "stratum0" then some stratum0
  else if s = "stratum1" then some stratum1
  else if s = "unknown" then some unknown
  else none

/-- Whether the kind is one of the two that a configuration can declare. -/
def isKnown (k : Kind) : Bool := k != unknown

/-- The kind with a name; any other text leaves it unknown. -/
def ofName (s : String) : Kind := (ofName? s).getD unknown

/-- A name that is written is read back. -/
theorem ofName?_name (k : Kind) : ofName? k.name = some k := by cases k <;> rfl

/-- A kind has one name, so no other text is read as it. -/
theorem ofName?_eq_some_iff {s : String} {k : Kind} : ofName? s = some k ↔ s = k.name := by
  refine ⟨fun h => ?_, fun h => h ▸ ofName?_name k⟩
  unfold ofName? at h
  split at h
  next named => exact Option.some.inj h ▸ named
  split at h
  next named => exact Option.some.inj h ▸ named
  split at h
  next named => exact Option.some.inj h ▸ named
  next => cases h

end Kind

end Stratum
