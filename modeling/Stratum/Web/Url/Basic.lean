import Stratum.Web.Host

/-!
# URLs and their written form

A URL in its parts. Every part is kept as it is written, so the written form, `Url.text`, is
the parts with their marks between them.

> `text_withoutFragment`: the written form up to the fragment.
-/

namespace Stratum

/-- Who and where: the part of a URL between its double slash and its path. -/
structure Authority where
  /-- Percent-encoded; empty if there is none. -/
  username : List Char := []
  /-- Percent-encoded; empty if there is none. -/
  password : List Char := []
  host : Host
  /-- The number of the TCP port, if it is not the usual one of the scheme. -/
  portNo : Option Nat := none
deriving DecidableEq, Repr

/-- A URL in parts, all of them percent-encoded where they must be. -/
structure Url where
  scheme : List Char
  authority : Option Authority
  /-- With its leading slash, unless it is a path without hierarchy. -/
  path : List Char
  query : Option (List Char) := none
  fragment : Option (List Char) := none
deriving DecidableEq, Repr

namespace Url

/-! ## The written form -/

/-- User name and password with the sign behind them. -/
def userText (a : Authority) : List Char :=
  if a.username.isEmpty && a.password.isEmpty then []
  else if a.password.isEmpty then a.username ++ ['@']
  else a.username ++ ':' :: a.password ++ ['@']

/-- The host, and the number of the TCP port behind a colon. -/
def hostText (a : Authority) : List Char :=
  a.host.text ++ (match a.portNo with
    | some n => ':' :: Text.Numeral.digits n
    | none => [])

/-- The authority behind its double slash. -/
def authorityText (u : Url) : List Char :=
  match u.authority with
  | some a => '/' :: '/' :: userText a ++ hostText a
  | none => []

/-- What stands before the query. -/
def stem (u : Url) : List Char := u.scheme ++ ':' :: u.authorityText ++ u.path

/-- What is written for an optional part behind its mark. -/
def part (mark : Char) : Option (List Char) → List Char
  | some s => mark :: s
  | none => []

/-- The written form of a URL. -/
def text (u : Url) : List Char := u.stem ++ part '?' u.query ++ part '#' u.fragment

/-- The URL without its fragment. -/
def withoutFragment (u : Url) : Url := { u with fragment := none }

/-- The URL without user name and password. -/
def withoutUser (u : Url) : Url :=
  { u with authority := u.authority.map fun a => { a with username := [], password := [] } }

/-- Whether the URL has a host. -/
def hasHost (u : Url) : Bool := u.authority.any (!·.host.text.isEmpty)

/-- Without its fragment a URL is written as before, up to the mark. -/
theorem text_withoutFragment (u : Url) :
    u.text = u.withoutFragment.text ++ part '#' u.fragment := by
  simp [text, withoutFragment, part, stem, authorityText]

end Url

end Stratum
