import Stratum.Text.Utf8

/-!
# The web as a table of routes

What servers answer is given by routes: a route has a method and a pattern for URLs, and says
what comes back. The latest of the routes that match a request answers it. A request for the
head alone is answered as the request for the whole would be, without the body, where no route
says otherwise.

The link to the web can be down. Then no request arrives anywhere. And it can be that no server is
trusted with a secured connection: then only requests that need none arrive.

> `answer?_add`: a new route answers what it matches, and changes nothing else.
-/

namespace Stratum

open Text

/-- The methods of requests. -/
inductive Method where
  | head
  | get
  | post
deriving DecidableEq, Repr

namespace Method

/-- The name of a method. -/
def name : Method → String
  | head => "HEAD"
  | get => "GET"
  | post => "POST"

/-- The method with a name. -/
def ofName? (s : String) : Option Method := [head, get, post].find? (·.name == s)

end Method

/-- How an answer breaks off. -/
inductive Breakage where
  /-- The server hangs up without answering. -/
  | connection
  /-- The body is shorter than announced. -/
  | body
deriving DecidableEq, Repr

/-- What a server answers. -/
structure Answer where
  status : Nat := 200
  body : Bytes := []
  location : Option String := none
  breakage : Option Breakage := none
deriving DecidableEq, Repr

/-- Which URLs a route is for. -/
inductive UrlPattern where
  | exactly (url : String)
  | endingWith (suffix : String)
deriving DecidableEq, Repr

namespace UrlPattern

/-- Whether a URL fits. -/
def fits (p : UrlPattern) (url : String) : Bool :=
  match p with
  | exactly u => u == url
  | endingWith suffix => suffix.toList.isSuffixOf url.toList

end UrlPattern

/-- What is answered to requests of one method for some URLs. -/
structure WebRoute where
  method : Method
  pattern : UrlPattern
  answer : Answer
deriving DecidableEq, Repr

namespace WebRoute

/-- Whether a route is for this request. -/
def fits (r : WebRoute) (m : Method) (url : String) : Bool := r.method == m && r.pattern.fits url

end WebRoute

/-- What can be reached. -/
structure Web where
  /-- Whether requests arrive at all. -/
  up : Bool := true
  /-- Whether connections can be secured. -/
  secures : Bool := true
  /-- The routes, the latest first. -/
  routes : List WebRoute := []
deriving DecidableEq, Repr

namespace Web

/-- The answer of the latest route that is for a request. -/
def answer? (w : Web) (m : Method) (url : String) : Option Answer :=
  (w.routes.find? (·.fits m url)).map WebRoute.answer

/-- The answer where there is no route. -/
def noRoute : Answer := { status := 404, body := "not found".utf8 }

/-- The answer to a request that arrives. -/
def answer (w : Web) (m : Method) (url : String) : Answer :=
  match m, w.answer? m url with
  | .head, none => { (w.answer? .get url).getD noRoute with body := [] }
  | _, a => a.getD noRoute

/-- The web with one more route. -/
def add (w : Web) (r : WebRoute) : Web := { w with routes := r :: w.routes }

/-- The web without the routes of a method for exactly one URL. -/
def drop (w : Web) (m : Method) (url : String) : Web :=
  { w with routes := w.routes.filter fun r => !(r.method == m && r.pattern == .exactly url) }

/-- A new route answers what it matches, and changes nothing else. -/
theorem answer?_add (w : Web) (r : WebRoute) (m : Method) (url : String) :
    (w.add r).answer? m url = if r.fits m url then some r.answer else w.answer? m url := by
  unfold answer? add
  rw [List.find?_cons]
  cases r.fits m url <;> rfl

end Web

end Stratum
