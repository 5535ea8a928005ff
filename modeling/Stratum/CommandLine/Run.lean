import Stratum.CommandLine.Arguments
import Stratum.Report
import Stratum.Repository.Installed
import Stratum.Repository.LayoutFile
import Stratum.Repository.Remote

/-!
# Running commands

What a command does is seen from outside: it prints, and it sends requests. A run is the trail
of both, with a complaint at its end if it fails. A complaint is a chain of causes, each of
which says why the one before it came about.

> `exit_outcome_eq_one_iff`: exactly the runs that fail exit with 1.
-/

namespace Stratum

/-- The machine and what it can reach. -/
structure World where
  files : Files
  web : Web

namespace CommandLine

/-- What is seen of a run. -/
inductive Event where
  | printed (text : String)
  | sent (s : Sent)
deriving DecidableEq, Repr

/-- Why a run failed: what went wrong, and the causes of that. -/
abbrev Complaint := List String

/-- A run of a command. -/
abbrev Run := Trail Event Complaint

/-- The causes of a failure, the failure itself first. -/
def causes (e : Failure) : Complaint :=
  e.message :: (match e with
    | .io cause => [cause.message]
    | .badUrl cause => [cause.message]
    | .http cause => [cause.message]
    | .badJson => ["unexpected content"]
    | _ => [])

/-- Something local that can fail. -/
def ofLocal {α : Type} (x : Except Failure α) : Run α := Trail.of (x.mapError causes)

/-- Something remote that can fail. -/
def ofRemote {α : Type} (t : Trail Sent Failure α) : Run α :=
  (t.mapError causes).expand fun s => [.sent s]

/-- Says what was being done when a run failed. -/
def within {α : Type} (what : String) (r : Run α) : Run α := r.mapError (what :: ·)

/-- Prints. -/
def print (text : String) : Run Unit := Trail.ask (.printed text) (.ok ())

/-- Ends a run with a complaint. -/
def complain {α : Type} (what : String) : Run α := Trail.fail [what]

/-- Whether the mark between a scheme and a host occurs in a text. -/
def hasHostMark : List Char → Bool
  | ':' :: '/' :: '/' :: _ => true
  | _ :: r => hasHostMark r
  | [] => false

/-- Whether a repository is named by its URL. -/
def isUrl (repo : String) : Bool := hasHostMark repo.toList

/-- Lists the repositories of this machine. -/
def list (w : World) (layout : Layout) (stratum0 : Bool) : Run Unit := do
  let rs ← ofLocal (if stratum0 then Installed.stratum0s w.files layout
    else Installed.all w.files layout)
  print (Report.table ((Installed.sorted rs).map Local.state))

/-- What is being done when a repository is opened. -/
def opening (repo : String) : String := "Failed to open " ++ repo

/-- Shows a repository. -/
def info (w : World) (layout : Layout) (repo : String) : Run Unit := do
  if isUrl repo then
    let r ← within (opening repo) (ofRemote (Remote.connect w.web layout repo))
    print (Report.info r.endpoint.base r.state)
    let (control, _) ← ofRemote (r.hasControl w.web)
    print (Report.unlines [Report.labelled "REST API" (if control then "yes" else "no")])
  else
    let r ← within (opening repo) (ofLocal (Local.load w.files layout repo))
    print (Report.info r.storageRoot r.state)
    print (Report.unlines [Report.labelled "Server config" r.conf.path])

/-- Asks a server to replicate. -/
def replicate (w : World) (layout : Layout) (url : String) : Run Unit := do
  let r ← within (opening url) (ofRemote (Remote.connect w.web layout url))
  let (control, r) ← ofRemote (r.hasControl w.web)
  if !control then complain (r.display ++ " does not offer a control API")
  else
    ofRemote (r.startReplication w.web)
    print (Report.unlines ["Replication of " ++ r.state.fqrn ++ " started at " ++ r.display])

/-- The repository at a URL; one that is not there is no replica. -/
def findReplica (w : World) (layout : Layout) (url : String) : Run Remote :=
  (Remote.connect w.web layout url).mapError (fun e =>
    if e.isNotFound then [url ++ " does not point to a CVMFS replica"]
    else opening url :: causes e) |>.expand fun s => [.sent s]

/-- The repository of this machine with the name of a replica. -/
def findStratum0 (w : World) (layout : Layout) (fqrn : String) : Run Local :=
  Trail.of ((Local.load w.files layout fqrn).mapError fun e =>
    if e.isNotFound then ["the stratum 0 of " ++ fqrn ++ " was not found"]
    else ("Failed to open local " ++ fqrn) :: causes e)

/-- Checks that a URL serves a replica of a repository of this machine. -/
def checkReplica (w : World) (layout : Layout) (url : String) : Run Unit := do
  let remote ← findReplica w layout url
  let home ← findStratum0 w layout remote.state.fqrn
  print (Report.unlines [remote.display ++ " is a replica of local " ++ home.state.kind.name ++
    " repository " ++ home.state.fqrn])

/-- Runs a command. -/
def runCommand (w : World) (layout : Layout) : Command → Run Unit
  | .list stratum0 => list w layout stratum0
  | .info repo => info w layout repo
  | .replicate url => replicate w layout url
  | .checkReplica url => checkReplica w layout url

/-- Runs a command with its layout file. -/
def run (w : World) (i : Invocation) : Run Unit := do
  let layout ← within "Failed to load configuration" (ofLocal (Layout.load w.files i.layoutFile))
  runCommand w layout i.command

/-! ## What is seen in the end -/

/-- The text of events that print. -/
def printed (es : List Event) : String :=
  String.join (es.filterMap fun
    | .printed text => some text
    | .sent _ => none)

/-- What has been sent. -/
def sent (es : List Event) : List Sent :=
  es.filterMap fun
    | .printed _ => none
    | .sent s => some s

/-- The lines of a cause: its first line behind the mark, further ones under it. -/
def causeLines (mark : String) (text : String) : List String :=
  let margin := String.ofList (List.replicate mark.length ' ')
  match text.toList.splitOn '\n' with
  | [] => [mark]
  | l :: ls => (mark ++ String.ofList l) :: ls.map fun l => margin ++ String.ofList l

/-- The lines of a text. -/
def linesOf (text : String) : List String := (text.toList.splitOn '\n').map String.ofList

/-- The lines in which the causes of a failure are told. Several causes are numbered. -/
def whyLines : List String → List String
  | [] => []
  | [cause] => ["", "Caused by:"] ++ causeLines "    " cause
  | causes =>
    ["", "Caused by:"] ++
      (causes.zipIdx.flatMap fun (cause, i) => causeLines ("    " ++ toString i ++ ": ") cause)

/-- The lines of a complaint: what went wrong, and then why. -/
def complaintLines : Complaint → List String
  | [] => []
  | what :: why => linesOf ("Error: " ++ what) ++ whyLines why

/-- How a run ends. -/
structure Outcome where
  exit : Nat
  output : String
  complaint : List String
  sent : List Sent
deriving DecidableEq, Repr

/-- The end of a run. -/
def outcome (r : Run Unit) : Outcome :=
  match r.outcome with
  | .ok () => { exit := 0, output := printed r.asked, complaint := [], sent := sent r.asked }
  | .error c =>
    { exit := 1, output := printed r.asked, complaint := complaintLines c, sent := sent r.asked }

/-- The name and the version of the program. -/
def versionText : String := Report.unlines ["cvmfs-repo 0.1.0"]

/-- How the program is used. -/
def helpText : String :=
  Report.unlines [
    "CVMFS repository inspection and replication tool", "",
    "Usage: cvmfs-repo [OPTIONS] <COMMAND>", "",
    "Commands:",
    "  list           List repositories configured on this machine",
    "  info           Display the state of a repository",
    "  replicate      Start replication on a remote stratum1",
    "  check-replica  Check that a URL serves a replica of a local stratum0", "",
    "Options:",
    "  -c, --config <CONFIG>  TOML file overriding the CVMFS installation layout"]

/-- What the program does with its arguments. -/
def execute (w : World) (args : List String) : Outcome :=
  match parse args with
  | .run i => outcome (run w i)
  | .version => { exit := 0, output := versionText, complaint := [], sent := [] }
  | .help => { exit := 0, output := helpText, complaint := [], sent := [] }
  | .misuse => { exit := 2, output := "", complaint := [], sent := [] }

/-- Exactly the runs that fail exit with 1. -/
theorem exit_outcome_eq_one_iff {r : Run Unit} :
    (outcome r).exit = 1 ↔ ∃ c, r.outcome = .error c := by
  unfold outcome
  cases r.outcome <;> simp

end CommandLine

end Stratum
