import Stratum.Json.Stored
import Stratum.Repository.Source
import Stratum.Web.Client

/-!
# Remote repositories

A repository on the web has a URL. Its artifacts are below that URL, and so is the control
interface, if the server has one. Whether it has one is asked once, with the first request, and
kept.

> `probe_of_probed`: what is known of the control interface is not asked again.
-/

namespace Stratum

open Text

/-- The place of a repository on the web. -/
structure Endpoint where
  /-- The URL of the repository, without slashes at its end. -/
  base : String
  /-- The path of the control interface, without slashes around it. -/
  connector : String
  /-- Whether there is a control interface, once that is known. -/
  probed : Option Bool := none
deriving DecidableEq, Repr

namespace Endpoint

/-- Whether a character is a slash. -/
def isSlash (c : Char) : Bool := c == '/'

/-- The text without slashes at its end. -/
def trimEnd (s : List Char) : List Char := dropEndWhile isSlash s

/-- The place that a URL names. -/
def ofUrl (url : String) (layout : Layout) : Except Failure Endpoint :=
  match Url.parse url.toList with
  | .error e => .error (.badUrl e)
  | .ok u => .ok {
      base := String.ofList (trimEnd u.text)
      connector := String.ofList (trimEnd (layout.connector.toList.dropWhile isSlash)) }

/-- The URL of a control request. -/
def controlUrl (e : Endpoint) (name : String) : String :=
  e.base ++ "/" ++ e.connector ++ "/" ++ name

/-- The URL of an artifact. -/
def artifactUrl (e : Endpoint) (name : String) : String := e.base ++ "/" ++ name

/-- Sends a request for a URL. -/
def request (w : Web) (m : Method) (url : String) : Trail Sent Failure Response :=
  match Url.parse url.toList with
  | .error _ => Trail.fail (.http (.building url))
  | .ok u => (Client.send w m u).mapError .http

/-- Whether the server has a control interface: asked by the first call, and known after it. -/
def probe (w : Web) (e : Endpoint) : Trail Sent Failure (Bool × Endpoint) :=
  match e.probed with
  | some b => return (b, e)
  | none => do
    let r ← request w .head (e.controlUrl "info")
    let b := r.status == 200
    return (b, { e with probed := some b })

/-- Sends a control request, and reads the answer with `reader`. -/
def call {α : Type} (w : Web) (e : Endpoint) (m : Method) (name : String)
    (reader : Json → Option α) : Trail Sent Failure α := do
  let r ← request w m (e.controlUrl name)
  if r.isRefusal then Trail.fail (.http (Client.refusal r))
  else if r.cut then Trail.fail (.http .decodingBody)
  else
    match Json.decode? reader r.body with
    | some a => return a
    | none => Trail.fail .badJson

/-- The kind and the version that the server reports. -/
def identify (w : Web) (e : Endpoint) : Trail Sent Failure (Kind × String × Endpoint) := do
  let (available, e) ← e.probe w
  if available then
    let info ← e.call w .get "info" Control.Info.ofJson?
    return (Kind.ofName info.kind, info.version, e)
  else return (.unknown, "unknown", e)

/-- Fetches an artifact. -/
def fetch (w : Web) (e : Endpoint) (name : String) : Trail Sent Failure Bytes := do
  let r ← request w .get (e.artifactUrl name)
  if !r.isSuccess then Trail.fail (.artifactNotFound e.base (e.artifactUrl name))
  else if r.cut then Trail.fail (.http .readingBody)
  else return r.body

/-- The artifacts of the repository. -/
def source (w : Web) (e : Endpoint) : Source where
  location := e.base
  retrieve name := (e.fetch w name).outcome

/-- What is known of the control interface is not asked again. -/
theorem probe_of_probed {w : Web} {e : Endpoint} {b : Bool} (h : e.probed = some b) :
    e.probe w = pure (b, e) := by
  unfold probe
  rw [h]

end Endpoint

/-- A remote repository that has been opened. -/
structure Remote where
  endpoint : Endpoint
  state : State

namespace Remote

/-- Connects to the repository at a URL. -/
def connect (w : Web) (layout : Layout) (url : String) : Trail Sent Failure Remote := do
  let e ← Trail.of (Endpoint.ofUrl url layout)
  let (kind, version, e) ← e.identify w
  let state ← ((e.source w).discover layout kind version).expand fun name => (e.fetch w name).asked
  return { endpoint := e, state }

/-- Whether the server has a control interface. -/
def hasControl (w : Web) (r : Remote) : Trail Sent Failure (Bool × Remote) := do
  let (b, endpoint) ← r.endpoint.probe w
  return (b, { r with endpoint })

/-- Asks the server to replicate the repository from its stratum 0. -/
def startReplication (w : Web) (r : Remote) : Trail Sent Failure Unit := do
  let reply ← r.endpoint.call w .post "replicate" Control.Reply.ofJson?
  if reply.isOk then return () else Trail.fail (.cannotReplicate r.endpoint.base)

/-- The name under which the repository shows itself. -/
def display (r : Remote) : String := r.endpoint.base

/-- The repository in the words of a log. -/
def describe (r : Remote) : String :=
  "<Remote Repository " ++ r.state.fqrn ++ " at " ++ r.endpoint.base ++ ">"

end Remote

end Stratum
