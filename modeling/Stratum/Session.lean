import Stratum.CommandLine.Run

/-!
# Sessions

A session works on one machine and its web, and keeps the repositories that it has opened under
names of its own. Between its steps files come and go and servers change their answers; what has
been opened stays as it was when it was opened.

> `find?_keep`: opening a repository changes what is kept under its name, and nothing else.
-/

namespace Stratum

open Text

/-- A repository that a session has opened. -/
inductive Opened where
  | home (r : Local)
  | remote (r : Remote)

namespace Opened

/-- The state it was found in. -/
def state : Opened → State
  | home r => r.state
  | remote r => r.state

/-- Where its artifacts are. -/
def location : Opened → String
  | home r => r.storageRoot
  | remote r => r.endpoint.base

end Opened

/-- A session: its world, and what it has opened. -/
structure Session where
  world : World
  layout : Layout
  opened : List (String × Opened) := []

/-- What can be done in a session. -/
inductive Step where
  | openLocal (name fqrn : String)
  | openRemote (name url : String)
  | state (name : String)
  | retrieve (name artifact : String)
  | serverConf (name field : String)
  | hasControl (name : String)
  | startReplication (name : String)
  | control (name : String) (method : Method) (path : String)
  | summary (name : String)
  | info (name : String)
  | table (name : String)
  | installed (stratum0 : Bool)
  | put (path : String) (entry : Entry)
  | remove (path : String)
  | addRoute (r : WebRoute)
  | dropRoute (m : Method) (url : String)
  | command (args : List String)

/-- What comes of a step. -/
inductive Reply where
  | opened (r : Opened)
  | bytes (b : Bytes)
  | text (s : String)
  | truth (b : Bool)
  | value (v : Json)
  | nothing
  | installed (rs : List Local)
  | ended (o : CommandLine.Outcome)

/-- The end of a step: what came of it and what was sent; `none` in the place of a result if
there is no repository of the name. -/
structure StepEnd where
  result : Option (Except Failure Reply)
  sent : List Sent := []

namespace Session

/-- What is kept under a name. -/
def find? (s : Session) (name : String) : Option Opened := s.opened.lookup name

/-- The session with a repository under a name. -/
def keep (s : Session) (name : String) (r : Opened) : Session :=
  { s with opened := (name, r) :: s.opened.filter (·.1 != name) }

/-- The session with other files. -/
def withFiles (s : Session) (f : Files) : Session :=
  { s with world := { s.world with files := f } }

/-- The session with another web. -/
def withWeb (s : Session) (w : Web) : Session := { s with world := { s.world with web := w } }

/-- The open repositories in the order of their names. -/
def sorted (s : Session) : List Opened :=
  (s.opened.mergeSort fun a b => decide (a.1 ≤ b.1)).map Prod.snd

/-- Any JSON value whose strings are texts and that is not nested too deeply. -/
def anyValue? (v : Json) : Option Json := if v.isText && v.depth < 128 then some v else none

/-- A step without effect that does not fail. -/
def answer (s : Session) (r : Reply) : StepEnd × Session := (⟨some (.ok r), []⟩, s)

/-- A step that asks for a repository that is not there. -/
def unknown (s : Session) : StepEnd × Session := (⟨none, []⟩, s)

/-- What comes of something remote. -/
def ofTrail {α : Type} (t : Trail Sent Failure α) (f : α → Reply) : StepEnd :=
  ⟨some (t.outcome.map f), t.asked⟩

/-- Opens a repository of this machine. -/
def openLocal (s : Session) (name fqrn : String) : StepEnd × Session :=
  match Local.load s.world.files s.layout fqrn with
  | .error e => (⟨some (.error e), []⟩, s)
  | .ok r => (⟨some (.ok (.opened (.home r))), []⟩, s.keep name (.home r))

/-- Opens a repository on the web. -/
def openRemote (s : Session) (name url : String) : StepEnd × Session :=
  let t := Remote.connect s.world.web s.layout url
  match t.outcome with
  | .error e => (⟨some (.error e), t.asked⟩, s)
  | .ok r => (⟨some (.ok (.opened (.remote r))), t.asked⟩, s.keep name (.remote r))

/-- Does something with an open repository. -/
def withOpened (s : Session) (name : String) (f : Opened → StepEnd × Session) :
    StepEnd × Session :=
  match s.find? name with
  | some r => f r
  | none => s.unknown

/-- Does something with an open repository of this machine. -/
def withLocal (s : Session) (name : String) (f : Local → StepEnd) : StepEnd × Session :=
  s.withOpened name fun
    | .home r => (f r, s)
    | .remote _ => s.unknown

/-- Does something with an open repository on the web. -/
def withRemote (s : Session) (name : String) (f : Remote → StepEnd × Session) :
    StepEnd × Session :=
  s.withOpened name fun
    | .home _ => s.unknown
    | .remote r => f r

/-- Fetches an artifact of an open repository. -/
def retrieve (s : Session) (artifact : String) : Opened → StepEnd
  | .home r => ⟨some ((Local.retrieve s.world.files r artifact).map .bytes), []⟩
  | .remote r => ofTrail (r.endpoint.fetch s.world.web artifact) .bytes

/-- Asks for the control interface of an open repository, and keeps what is known of it. -/
def hasControl (s : Session) (name : String) (r : Remote) : StepEnd × Session :=
  let t := r.hasControl s.world.web
  match t.outcome with
  | .error e => (⟨some (.error e), t.asked⟩, s)
  | .ok (b, r) => (⟨some (.ok (.truth b)), t.asked⟩, s.keep name (.remote r))

/-- The repositories of the machine. -/
def installed (s : Session) (stratum0 : Bool) : Except Failure (List Local) :=
  (if stratum0 then Installed.stratum0s s.world.files s.layout
    else Installed.all s.world.files s.layout).map Installed.sorted

/-- One step. -/
def step (s : Session) : Step → StepEnd × Session
  | .openLocal name fqrn => s.openLocal name fqrn
  | .openRemote name url => s.openRemote name url
  | .state name => s.withOpened name fun r => s.answer (.opened r)
  | .retrieve name artifact => s.withOpened name fun r => (s.retrieve artifact r, s)
  | .serverConf name field =>
    s.withLocal name fun r => ⟨some ((r.conf.read s.world.files field).map .text), []⟩
  | .hasControl name => s.withRemote name (s.hasControl name)
  | .startReplication name =>
    s.withRemote name fun r => (ofTrail (r.startReplication s.world.web) fun _ => .nothing, s)
  | .control name method path =>
    s.withRemote name fun r =>
      (ofTrail (r.endpoint.call s.world.web method path anyValue?) .value, s)
  | .summary name => s.withOpened name fun r => s.answer (.text (Report.summary r.state))
  | .info name => s.withOpened name fun r => s.answer (.text (Report.info r.location r.state))
  | .table name =>
    s.withOpened name fun _ => s.answer (.text (Report.table (s.sorted.map Opened.state)))
  | .installed stratum0 => (⟨some ((s.installed stratum0).map .installed), []⟩, s)
  | .put path entry => (s.withFiles (s.world.files.put path entry)).answer .nothing
  | .remove path => (s.withFiles (s.world.files.remove path)).answer .nothing
  | .addRoute r => (s.withWeb (s.world.web.add r)).answer .nothing
  | .dropRoute m url => (s.withWeb (s.world.web.drop m url)).answer .nothing
  | .command args =>
    let o := CommandLine.execute s.world args
    (⟨some (.ok (.ended o)), o.sent⟩, s)

/-- All steps, one after the other. -/
def play (s : Session) : List Step → List StepEnd
  | [] => []
  | a :: rest => (s.step a).1 :: play (s.step a).2 rest

/-- What is kept under a name is found there, and elsewhere nothing has changed. -/
theorem find?_keep (s : Session) (name : String) (r : Opened) (other : String) :
    (s.keep name r).find? other = if other = name then some r else s.find? other := by
  unfold find? keep
  rw [Keyed.lookup_cons, Keyed.lookup_filter (· != name)]
  by_cases h : other = name <;> simp [h]

end Session

end Stratum
