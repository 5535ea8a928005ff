import Stratum.Trail
import Stratum.Web.Traffic
import Stratum.Web.Url.Reader

/-!
# Requests and their answers

A client sends a request for a URL and follows redirects. What it sends is its trail. User name
and password never leave the client in the URL, nor does the fragment. Where a connection has to be
secured and cannot be, all that is sent is the attempt to reach the server.

> `send_of_not_hasHost`: for a URL without host nothing is sent.
-/

namespace Stratum

open Text

/-- What a client sends. -/
inductive Sent where
  | request (method : Method) (url : String)
  /-- The attempt to reach a server over a secured connection, where none can be made. -/
  | connect (server : String)
deriving DecidableEq, Repr

namespace Sent

/-- Method and target. -/
def text : Sent → String
  | request m url => m.name ++ " " ++ url
  | connect server => "CONNECT " ++ server

end Sent

/-- The answer to a request, after all redirects. -/
structure Response where
  /-- The URL that answered. -/
  url : Url
  status : Nat
  body : Bytes
  /-- Whether the body is shorter than announced. -/
  cut : Bool
deriving DecidableEq, Repr

namespace Response

/-- Whether the status says that the request succeeded. -/
def isSuccess (r : Response) : Bool := 200 ≤ r.status && r.status < 300

/-- Whether the status says that the client or the server has failed. -/
def isRefusal (r : Response) : Bool := 400 ≤ r.status && r.status < 600

end Response

namespace Client

/-- How many redirects are followed. -/
def redirectLimit : Nat := 10

/-- Characters that may stand in the authority of a request. -/
def isAuthorityChar (c : Char) : Bool :=
  c.isAlphanum || "!#$&'()*+,-./:;=?@[]_~".toList.contains c

/-- The greatest length of a URL in a request. -/
def lengthLimit : Nat := 65534

/-- Whether the text of a URL without authority can itself be taken for one: nothing in it ends an
authority, and behind a user it has a name with one colon at the most. -/
def isAuthority (s : List Char) : Bool :=
  let server := (s.reverse.takeWhile (· != '@')).reverse
  s.all (fun c => (isAuthorityChar c && !"/?#[]".toList.contains c) || c == '%') &&
    !server.isEmpty && !server.contains '%' && server.count ':' ≤ 1

/-- Whether a URL can stand in a request. -/
def isRequestable (u : Url) : Bool :=
  (match u.authority with
    | some a => !(Url.hostText a).isEmpty && (Url.hostText a).all isAuthorityChar
    | none => isAuthority u.text) && u.text.length ≤ lengthLimit

/-- Whether the scheme is one that is spoken here. -/
def isSpoken (u : Url) : Bool := u.scheme == "http".toList || u.scheme == "https".toList

/-- The URL as it is sent. -/
def sentUrl (u : Url) : String := String.ofList u.withoutUser.withoutFragment.text

/-- The server of a URL with its TCP port. -/
def server (u : Url) : String :=
  match u.authority with
  | some a => String.ofList (a.host.text ++ ':' :: Numeral.digits (a.portNo.getD 443))
  | none => ""

/-- Whether a request for a URL would need a secured connection, and none can be made. -/
def isShut (w : Web) (u : Url) : Bool := u.scheme == "https".toList && !w.secures

/-- Sends one request and takes the answer, without following redirects. -/
def transmit (w : Web) (m : Method) (u : Url) : Trail Sent HttpError Answer :=
  let lost : Except HttpError Answer := .error (.sending (String.ofList u.text))
  if !w.up then Trail.of lost
  else if isShut w u then Trail.ask (.connect (server u)) lost
  else
    let a := w.answer m (sentUrl u)
    Trail.ask (.request m (sentUrl u)) (if a.breakage = some .connection then lost else .ok a)

/-- Where an answer redirects to, if it does. -/
def redirect? (u : Url) (a : Answer) : Option Url :=
  if [301, 302, 303, 307, 308].contains a.status then
    a.location.bind fun l => ((u.join l.toList).toOption).filter isRequestable
  else none

/-- The method of the request that follows a redirect. -/
def nextMethod (m : Method) (status : Nat) : Method :=
  if m = .post && [301, 302, 303].contains status then .get else m

/-- Sends requests until one is answered without a redirect; at most `n` redirects are
followed. -/
def follow (w : Web) : Nat → Method → Url → Trail Sent HttpError Response
  | n, m, u => do
    let a ← transmit w m u
    match redirect? u a with
    -- A redirect to what cannot stand in a request is an answer like any other.
    | none => return { url := u, status := a.status, body := a.body, cut := a.breakage = some .body }
    | some v =>
      match n with
      | 0 => Trail.fail (.redirecting (String.ofList u.text))
      | n + 1 =>
        if isSpoken v then follow w n (nextMethod m a.status) v
        else Trail.fail (.building (String.ofList v.text))

/-- Whether a percent-encoded text is text when it is decoded. -/
def decodes (s : List Char) : Bool := (Utf8.decode? (Percent.decode s)).isSome

/-- The URL without user name and password, unless they are no text. -/
def hideUser (u : Url) : Url :=
  match u.authority with
  | some a =>
    if decodes a.username && (!a.username.isEmpty || decodes a.password) then u.withoutUser else u
  | none => u

/-- Sends a request and follows redirects. -/
def send (w : Web) (m : Method) (u : Url) : Trail Sent HttpError Response :=
  if !u.hasHost then Trail.fail (.building (String.ofList u.text))
  else
    let v := hideUser u
    if isSpoken v && isRequestable v then follow w redirectLimit m v
    else Trail.fail (.building (String.ofList v.text))

/-- The words for a status. -/
def phrases : List (Nat × String) :=
  [(400, "Bad Request"), (401, "Unauthorized"), (402, "Payment Required"), (403, "Forbidden"),
    (404, "Not Found"), (405, "Method Not Allowed"), (406, "Not Acceptable"),
    (407, "Proxy Authentication Required"), (408, "Request Timeout"), (409, "Conflict"),
    (410, "Gone"), (411, "Length Required"), (412, "Precondition Failed"),
    (413, "Payload Too Large"), (414, "URI Too Long"), (415, "Unsupported Media Type"),
    (416, "Range Not Satisfiable"), (417, "Expectation Failed"), (418, "I'm a teapot"),
    (421, "Misdirected Request"), (422, "Unprocessable Entity"), (423, "Locked"),
    (424, "Failed Dependency"), (425, "Too Early"), (426, "Upgrade Required"),
    (428, "Precondition Required"), (429, "Too Many Requests"),
    (431, "Request Header Fields Too Large"), (451, "Unavailable For Legal Reasons"),
    (500, "Internal Server Error"), (501, "Not Implemented"), (502, "Bad Gateway"),
    (503, "Service Unavailable"), (504, "Gateway Timeout"), (505, "HTTP Version Not Supported"),
    (506, "Variant Also Negotiates"), (507, "Insufficient Storage"), (508, "Loop Detected"),
    (510, "Not Extended"), (511, "Network Authentication Required")]

/-- The words that a server gives with a status. -/
def phrase (status : Nat) : String := (phrases.lookup status).getD "Custom"

/-- The failure that a refusal amounts to. -/
def refusal (r : Response) : HttpError :=
  .status r.status (phrase r.status) (String.ofList r.url.text)

/-- For a URL without host nothing is sent. -/
theorem send_of_not_hasHost {w : Web} {m : Method} {u : Url} (h : u.hasHost = false) :
    (send w m u).asked = [] := by
  simp [send, h, Trail.fail, Trail.of]

end Client

end Stratum
