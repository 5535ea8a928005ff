/-!
# What can go wrong on the web

A URL can be unreadable, and an exchange over HTTP can fail in the middle or be refused by
the server. Both kinds of failure come with the wording in which they are reported.
-/

namespace Stratum

/-- Why a text is no URL. -/
inductive UrlError where
  /-- There is no scheme. -/
  | relative
  | emptyHost
  | badPort
  | badIpv4
  | badIpv6
  | badDomain
  /-- A character that no host may contain. -/
  | forbiddenInHost
deriving DecidableEq, Repr

namespace UrlError

/-- What is wrong, in words. -/
def message : UrlError → String
  | relative => "relative URL without a base"
  | emptyHost => "empty host"
  | badPort => "invalid port number"
  | badIpv4 => "invalid IPv4 address"
  | badIpv6 => "invalid IPv6 address"
  | badDomain => "invalid international domain name"
  | forbiddenInHost => "invalid domain character"

end UrlError

/-- Why an exchange over HTTP failed. -/
inductive HttpError where
  /-- The server answered with a status from 400 to 599 where success was demanded. -/
  | status (code : Nat) (phrase : String) (url : String)
  /-- No answer came. -/
  | sending (url : String)
  /-- No request can be made for this URL. -/
  | building (url : String)
  /-- The server redirected too often. -/
  | redirecting (url : String)
  /-- The body of a control answer was cut short. -/
  | decodingBody
  /-- The body of an artifact was cut short. -/
  | readingBody
deriving DecidableEq, Repr

namespace HttpError

/-- What is wrong, in words. -/
def message : HttpError → String
  | status code phrase url =>
    "HTTP status " ++ (if code < 500 then "client" else "server") ++ " error (" ++
      toString code ++ " " ++ phrase ++ ") for url (" ++ url ++ ")"
  | sending url => "error sending request for url (" ++ url ++ ")"
  | building url => "builder error for url (" ++ url ++ ")"
  | redirecting url => "error following redirect for url (" ++ url ++ ")"
  | decodingBody => "error decoding response body"
  | readingBody => "request or response body error"

end HttpError

end Stratum
