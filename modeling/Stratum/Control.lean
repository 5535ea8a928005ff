/-!
# The answers of the control interface

A server may answer control requests below the URL of a repository: `info` tells what the
repository is, `replicate` starts a replication. This module holds what such answers say.

> `Reply.isOk_iff`: only the word `ok` says that a replication has been started.
-/

namespace Stratum.Control

/-- What a server says about a repository, in its own words. -/
structure Info where
  kind : String
  version : String
deriving DecidableEq, Repr

/-- The answer to the request to replicate. -/
structure Reply where
  result : Option String := none
deriving DecidableEq, Repr

namespace Reply

/-- Whether the replication has been started. -/
def isOk (r : Reply) : Bool := r.result == some "ok"

/-- No other word and no missing word means that a replication has been started. -/
theorem isOk_iff {r : Reply} : r.isOk = true ↔ r.result = some "ok" := beq_iff_eq

end Reply

end Stratum.Control
