import Stratum.Text.Blank
import Stratum.Web.Url.Basic
import Stratum.Web.Url.Path

/-!
# Reading URLs

A URL is cut into parts by the rules that web browsers follow: blanks around it and line ends
inside it do not count, a few special schemes take backslashes for slashes and demand a host,
and dots in the path are resolved. A reference in an answer is read on top of the URL that was
asked for.

> `parse_of_scheme?_eq_none`: a text without a scheme is no URL.
-/

namespace Stratum

namespace Url

/-- The schemes whose URLs have a host and a path of directories. -/
def isSpecial (scheme : List Char) : Bool :=
  ["http", "https", "ws", "wss", "ftp", "file"].contains (String.ofList scheme)

/-- The usual TCP port of a scheme. -/
def usualPort? (scheme : List Char) : Option Nat :=
  [("http", 80), ("https", 443), ("ws", 80), ("wss", 443), ("ftp", 21)].lookup (String.ofList scheme)

/-- Characters of a scheme behind its first. -/
def isSchemeChar (c : Char) : Bool := c.isAlphanum || c == '+' || c == '-' || c == '.'

/-- The scheme in lower case, and what follows its colon. -/
def scheme? (s : List Char) : Option (List Char × List Char) :=
  let name := s.takeWhile isSchemeChar
  match name.head?, s.drop name.length with
  | some c, ':' :: r => if c.isAlpha then some (name.map Char.toLower, r) else none
  | _, _ => none

/-- Controls and the space. -/
def isTrimmed (c : Char) : Bool := c.toNat ≤ 0x20

/-- The text without controls and spaces around it, and without tabs and line ends. -/
def clean (s : List Char) : List Char :=
  (Text.dropEndWhile isTrimmed (s.dropWhile isTrimmed)).filter fun c =>
    c != '\t' && c != '\n' && c != '\r'

/-- Whether a character ends the authority. -/
def endsAuthority (special : Bool) (c : Char) : Bool :=
  UrlPath.isSlash special c || c == '?' || c == '#'

/-- What stands before and behind the last `@` of the authority. -/
def splitUser? (special : Bool) (s : List Char) : Option (List Char × List Char) :=
  let region := s.takeWhile (!endsAuthority special ·)
  match region.reverse.dropWhile (· != '@') with
  | [] => none
  | _ :: r => some (r.reverse, s.drop (r.length + 1))

/-- User name, password, and what follows them. Where they are empty, a host has to follow. -/
def takeUser (special : Bool) (s : List Char) :
    Except UrlError (List Char × List Char × List Char) :=
  match splitUser? special s with
  | none => .ok ([], [], s)
  | some (info, r) =>
    if info.isEmpty && r.head?.any (endsAuthority special) then .error .emptyHost
    else
      let name := info.takeWhile (· != ':')
      let pass := info.drop (name.length + 1)
      .ok (Percent.encode Percent.userInfo name, Percent.encode Percent.userInfo pass, r)

/-- The length of a host: it ends at a colon that is not between brackets, or with the
authority. -/
def hostLength (special : Bool) : Bool → List Char → Nat
  | _, [] => 0
  | inside, c :: r =>
    if (c == ':' && !inside) || endsAuthority special c then 0
    else hostLength special (if c == '[' then true else if c == ']' then false else inside) r + 1

/-- The number of the TCP port behind a colon, and what follows it. -/
def takePort (scheme s : List Char) : Except UrlError (Option Nat × List Char) :=
  match s with
  | ':' :: r =>
    let digits := r.takeWhile Char.isDigit
    let rest := r.drop digits.length
    let n := Text.Numeral.value digits
    if 65535 < n || !rest.head?.all (fun c => endsAuthority true c) then .error .badPort
    else .ok (if digits.isEmpty || usualPort? scheme == some n then none else some n, rest)
  | s => .ok (none, s)

/-- The authority behind a double slash, and what follows it. -/
def takeAuthority (scheme s : List Char) : Except UrlError (Authority × List Char) := do
  let special := isSpecial scheme
  let (username, password, s) ← takeUser special s
  let name := s.take (hostLength special false s)
  let rest := s.drop name.length
  -- Only a URL of another scheme may go without a host, and then without a user and a colon.
  if name.isEmpty then
    if special || rest.head? == some ':' || !username.isEmpty || !password.isEmpty then
      .error .emptyHost
  let host ← if special then Host.ofSpecial name else Host.ofOther name
  let (portNo, rest) ← takePort scheme rest
  return ({ username, password, host, portNo }, rest)

/-- Query and fragment. -/
def tail (special : Bool) (s : List Char) : Option (List Char) × Option (List Char) :=
  let fragment (s : List Char) := match s with
    | '#' :: r => some (Percent.encode Percent.fragment r)
    | _ => none
  match s with
  | '?' :: r =>
    let q := r.takeWhile (· != '#')
    (some (Percent.encode (if special then Percent.specialQuery else Percent.query) q),
      fragment (r.drop q.length))
  | s => (none, fragment s)

/-- Whether a character ends the path. -/
def endsPath (c : Char) : Bool := c == '?' || c == '#'

/-- The path of a URL with an authority, from what follows the authority. -/
def hierarchyPath (special : Bool) (s : List Char) : List Char :=
  match s with
  | [] => if special then ['/'] else []
  | c :: r => UrlPath.ofText special false (if UrlPath.isSlash special c then r else s)

/-- The host of a file URL: nothing, if what stands there is the name of a drive, or names this
machine. -/
def fileHost (s : List Char) : Except UrlError (Host × List Char) :=
  let name := s.takeWhile (!endsAuthority true ·)
  if name.isEmpty || UrlPath.isDrive name then .ok (.domain [], s)
  else
    (Host.ofSpecial name).map fun h =>
      (if h = .domain "localhost".toList then .domain [] else h, s.drop name.length)

/-- The name of a drive with a colon, other segments as they are. -/
def driveColon (s : List Char) : List Char :=
  match s with
  | [c, _] => if UrlPath.isDrive s then [c, ':'] else s
  | _ => s

/-- The path of a file URL; slashes at its front count once. -/
def filePath (s : List Char) : List Char :=
  let segments := (s.splitOnP (UrlPath.isSlash true)).map (Percent.encode Percent.path)
  let segments := match segments.dropWhile List.isEmpty with
    | [] => [[]]
    | s :: r => driveColon s :: r
  '/' :: ['/'].intercalate (match (UrlPath.resolve true [] segments).dropWhile List.isEmpty with
    | [] => [[]]
    | ss => ss)

/-- Whether the first segment of a path is the name of a drive. -/
def startsWithDrive (path : List Char) : Bool :=
  UrlPath.isDrive ((path.drop 1).takeWhile (· != '/'))

/-- A file URL, from what follows its colon. -/
def ofFile (s : List Char) : Except UrlError Url := do
  let (host, rest) ← match s with
    | a :: b :: r =>
      if UrlPath.isSlash true a && UrlPath.isSlash true b then fileHost r
      else .ok (.domain [], s)
    | _ => .ok (.domain [], s)
  let before := rest.takeWhile (!endsPath ·)
  let path := filePath before
  let (query, fragment) := tail true (rest.drop before.length)
  return {
    scheme := "file".toList
    authority := some { host := if startsWithDrive path then .domain [] else host }
    path, query, fragment }

/-- A URL with an authority, from what follows its double slash. -/
def ofHierarchy (scheme s : List Char) : Except UrlError Url := do
  let special := isSpecial scheme
  let (authority, rest) ← takeAuthority scheme s
  let before := rest.takeWhile (!endsPath ·)
  let (query, fragment) := tail special (rest.drop before.length)
  return { scheme, authority := some authority, path := hierarchyPath special before, query, fragment }

/-- A URL without authority, from what follows its colon. A path that starts with two slashes
gets a dot before them, so that it is not taken for an authority. -/
def ofPath (scheme s : List Char) : Url :=
  let before := s.takeWhile (!endsPath ·)
  let (query, fragment) := tail false (s.drop before.length)
  let path := match before with
    | '/' :: r =>
      let p := UrlPath.ofText false false r
      if p.take 2 == ['/', '/'] then ['/', '.'] ++ p else p
    | p => Percent.encode Percent.controls p
  { scheme, authority := none, path, query, fragment }

/-- Reads a URL. -/
def parse (input : List Char) : Except UrlError Url :=
  match scheme? (clean input) with
  | none => .error .relative
  | some (scheme, r) =>
    if scheme = "file".toList then ofFile r
    else if isSpecial scheme then ofHierarchy scheme (r.dropWhile (UrlPath.isSlash true))
    else
      match r with
      | '/' :: '/' :: r => ofHierarchy scheme r
      | r => .ok (ofPath scheme r)

/-- A text without scheme is no URL. -/
theorem parse_of_scheme?_eq_none {input : List Char} (h : scheme? (clean input) = none) :
    parse input = .error .relative := by
  unfold parse
  rw [h]

/-! ## References -/

/-- The part of a URL up to the last slash of its path. -/
def directory (u : Url) : List Char :=
  (u.path.reverse.dropWhile (· != '/')).reverse

/-- Reads what is different from `u`, without a scheme. -/
def amend (u : Url) (s : List Char) : Except UrlError Url :=
  let root := u.scheme ++ ':' :: u.authorityText
  -- What is not given is taken from the URL, and the whole is read anew.
  let full := match s with
    | [] => u.withoutFragment.text
    | c :: r =>
      if c == '#' then u.withoutFragment.text ++ s
      else if c == '?' then u.stem ++ s
      else if UrlPath.isSlash true c then
        if r.head?.any (UrlPath.isSlash true) then u.scheme ++ ':' :: s else root ++ s
      else root ++ directory u ++ s
  parse full

/-- Reads a reference as it stands in an answer to a request for `u`: a URL of its own, or what
is different in it from `u`. The special scheme of `u` may be given with what is different; only a
double slash makes a URL of that. -/
def join (u : Url) (reference : List Char) : Except UrlError Url :=
  let s := clean reference
  match scheme? s with
  | none => amend u s
  | some (scheme, r) =>
    if scheme = u.scheme && isSpecial scheme && (r.takeWhile (UrlPath.isSlash true)).length < 2 then
      amend u r
    else parse s

end Url

end Stratum
