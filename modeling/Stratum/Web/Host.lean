import Stratum.Web.Address
import Stratum.Web.Domain
import Stratum.Web.Percent

/-!
# Hosts

The host of a URL is a domain, a numeric address, or, in a URL whose scheme is not one of the
special ones, any text at all. Each host has one written form: domains are in lower case and
ASCII, addresses without leading zeros.

> `ofOther_of_forbidden`: outside brackets a forbidden character makes any host invalid.
-/

namespace Stratum

open Text

/-- The host of a URL. -/
inductive Host where
  | domain (name : List Char)
  | ipv4 (address : Nat)
  | ipv6 (groups : List Nat)
deriving DecidableEq, Repr

namespace Host

/-- How a host is written. -/
def text : Host → List Char
  | domain name => name
  | ipv4 address => Address.ipv4Text address
  | ipv6 groups => Address.ipv6Text groups

/-- What stands between brackets, if a host starts with one. -/
def bracketed? (s : List Char) : Option (Except UrlError (List Char)) :=
  match s with
  | '[' :: r => some (if r.getLast? = some ']' then .ok r.dropLast else .error .badIpv6)
  | _ => none

/-- The host of a URL with a special scheme. -/
def ofSpecial (s : List Char) : Except UrlError Host :=
  match bracketed? s with
  | some inner => (inner.bind Address.ipv6?).map ipv6
  | none =>
    match Domain.toAscii? (Utf8.decodeLossy (Percent.decode s)) with
    | none => .error .badDomain
    | some name =>
      if name.isEmpty then .error .emptyHost
      else if Address.endsInNumber name then (Address.ipv4? name).map ipv4
      else .ok (domain name)

/-- Characters that no host may contain. -/
def isForbidden (c : Char) : Bool :=
  ['\x00', '\t', '\n', '\r', ' ', '#', '/', ':', '<', '>', '?', '@', '[', '\\', ']', '^',
    '|'].contains c

/-- The host of a URL with any other scheme. -/
def ofOther (s : List Char) : Except UrlError Host :=
  match bracketed? s with
  | some inner => (inner.bind Address.ipv6?).map ipv6
  | none =>
    if s.any isForbidden then .error .forbiddenInHost
    else .ok (domain (Percent.encode Percent.controls s))

/-- Only a bracket at the front starts an address between brackets. -/
theorem bracketed?_eq_none {s : List Char} (outside : s.head? ≠ some '[') : bracketed? s = none := by
  unfold bracketed?
  split
  · simp at outside
  · rfl

/-- Outside brackets a forbidden character makes any host invalid. -/
theorem ofOther_of_forbidden {s : List Char} (outside : s.head? ≠ some '[')
    (forbidden : s.any isForbidden = true) : ofOther s = .error .forbiddenInHost := by
  unfold ofOther
  rw [bracketed?_eq_none outside]
  exact if_pos forbidden

end Host

end Stratum
