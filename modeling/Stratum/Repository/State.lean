import Stratum.Kind
import Stratum.Manifest
import Stratum.Time.Instant

/-!
# The state of a repository

What is known of a repository once it has been looked at. The state is a value: it does not
change with the place it was read from.

> `hasBeenReplicated_iff`: the time of the last replication is what tells whether there was one.
-/

namespace Stratum

/-- Who a repository is, and how its replication stands. -/
structure State where
  /-- The fully qualified name of the repository. -/
  fqrn : String
  kind : Kind
  version : String
  manifest : Manifest
  /-- The end of the last replication; the epoch if there was none. -/
  lastReplication : Time.Instant
  /-- The start of the replication that is running. -/
  replicatingSince : Option Time.Instant
deriving DecidableEq

namespace State

/-- Whether there has been a replication. -/
def hasBeenReplicated (s : State) : Bool := s.lastReplication != Time.Instant.epoch

/-- Whether a replication is running. -/
def isReplicating (s : State) : Bool := s.replicatingSince.isSome

/-- Having been replicated means having a time other than the epoch. -/
theorem hasBeenReplicated_iff {s : State} :
    s.hasBeenReplicated = true ↔ s.lastReplication ≠ Time.Instant.epoch := bne_iff_ne

end State

end Stratum
