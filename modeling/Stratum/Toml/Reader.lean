import Stratum.Toml.Document
import Stratum.Toml.Scalar
import Stratum.Toml.Text

/-!
# Reading TOML

A document line by line: headers, entries and comments. A line feed ends each of them; only
strings over several lines and arrays may contain line feeds.

Values are taken off the front of the text by functions that take turns. Every turn gets less
fuel than the one before. Of two turns in a row at least one takes a character, a bracket or a
comma, so twice the number of characters is enough.

> `ofText?_mark`: a byte order mark in front of a document does not count.
-/

namespace Stratum.Toml

/-- How deeply arrays and inline tables may be nested. -/
def depthLimit : Nat := 79

/-- How many parts a key may have. -/
def keyLimit : Nat := 79

/-- What follows a comment, if the text starts with one; `none` if it holds a control
character. -/
def skipComment? (s : List Char) : Option (List Char) :=
  match s with
  | '#' :: r =>
    let line := r.takeWhile (· != '\n')
    if line.all isPrintable then some (r.drop line.length) else none
  | s => some s

/-- What follows blanks, comments and line ends. -/
def skipLines? : Nat → List Char → Option (List Char)
  | 0, s => some s
  | n + 1, s => do
    match ← skipComment? (skipSpace s) with
    | '\n' :: r => skipLines? n r
    | r => some r

/-- What follows blanks, comments and line ends. -/
def skipBetween? (s : List Char) : Option (List Char) := skipLines? s.length s

/-- More parts of a key, each after a full stop. -/
def moreKeys? : Nat → List Char → Option (List String × List Char)
  | 0, s => some ([], s)
  | n + 1, s =>
    match skipSpace s with
    | '.' :: r => do
      let (k, r) ← keyPart? (skipSpace r)
      let (ks, r) ← moreKeys? n r
      return (k :: ks, r)
    | r => some ([], r)

/-- A key with its parts, and blanks around each of them. -/
def key? (s : List Char) : Option (List String × List Char) := do
  let (k, r) ← keyPart? (skipSpace s)
  let (ks, r) ← moreKeys? r.length r
  if ks.length < keyLimit then some (k :: ks, skipSpace r) else none

/-- The text after an equals sign and blanks. -/
def afterEquals? : List Char → Option (List Char)
  | '=' :: r => some (skipSpace r)
  | _ => none

mutual

/-- A value, `depth` levels deep at the most: its text, if it is one, and what follows it. -/
def value? : Nat → Nat → List Char → Option (Option String × List Char)
  | _, _, '"' :: r => (string? ('"' :: r)).map fun (s, r) => (some (String.ofList s), r)
  | _, _, '\'' :: r => (string? ('\'' :: r)).map fun (s, r) => (some (String.ofList s), r)
  | n + 1, depth + 1, '[' :: r => (afterItems? n depth r).map (none, ·)
  -- An inline table may be empty, but no comma may end it.
  | n + 1, depth + 1, '\x7b' :: r =>
    match skipSpace r with
    | '\x7d' :: r => some (none, r)
    | r => (afterPairs? n depth [] r).map (none, ·)
  | _, _, s => (afterScalar? s).map (none, ·)

/-- What follows the values of an array, its closing bracket included. -/
def afterItems? : Nat → Nat → List Char → Option (List Char)
  | 0, _, _ => none
  | n + 1, depth, s => do
    match ← skipBetween? s with
    -- The bracket may close an empty array, or follow a comma.
    | ']' :: r => some r
    | s =>
      let (_, r) ← value? n depth s
      match ← skipBetween? r with
      | ',' :: r => afterItems? n depth r
      | ']' :: r => some r
      | _ => none

/-- What follows the entries of an inline table, its closing brace included; `d` holds the
entries before them. -/
def afterPairs? : Nat → Nat → Document → List Char → Option (List Char)
  | 0, _, _, _ => none
  | n + 1, depth, d, s => do
    let (keys, r) ← key? s
    let r ← afterEquals? r
    let (text, r) ← value? n depth r
    let d ← d.addValue? [] keys text
    match skipSpace r with
    | ',' :: r => afterPairs? n depth d r
    | '\x7d' :: r => some r
    | _ => none

end

/-- What follows the end of a line, with blanks and a comment before it. -/
def lineEnd? (s : List Char) : Option (List Char) := do
  match ← skipComment? (skipSpace s) with
  | '\n' :: r => some r
  | [] => some []
  | _ => none

/-- A document so far, and the table that entries belong to. -/
structure Progress where
  document : Document := []
  table : TablePath := []

/-- Reads one line that is not blank. -/
def line? (p : Progress) (s : List Char) : Option (Progress × List Char) :=
  match s with
  | '[' :: '[' :: r => do
    let (keys, r) ← key? r
    match r with
    | ']' :: ']' :: r =>
      let (d, t) ← p.document.openElement? keys
      return (⟨d, t⟩, ← lineEnd? r)
    | _ => none
  | '[' :: r => do
    let (keys, r) ← key? r
    match r with
    | ']' :: r =>
      let (d, t) ← p.document.openTable? keys
      return (⟨d, t⟩, ← lineEnd? r)
    | _ => none
  | s => do
    let (keys, r) ← key? s
    let r ← afterEquals? r
    let (text, r) ← value? (2 * r.length) depthLimit r
    let d ← p.document.addValue? p.table keys text
    return ({ p with document := d }, ← lineEnd? r)

/-- Reads all lines. -/
def lines? : Nat → Progress → List Char → Option Document
  | 0, _, _ => none
  | n + 1, p, s => do
    match ← skipBetween? s with
    | [] => return p.document
    | s =>
      let (p, r) ← line? p s
      lines? n p r

/-- The document that a text holds; a byte order mark in front of it does not count. -/
def ofText? (s : List Char) : Option Document :=
  let s := if s.head? = some '\uFEFF' then s.tail else s
  lines? (s.length + 1) {} (unifyLineEnds s)

/-- A byte order mark in front of a document does not count, whatever the document is. -/
theorem ofText?_mark {s : List Char} (h : s.head? ≠ some '\uFEFF') :
    ofText? ('\uFEFF' :: s) = ofText? s := by
  unfold ofText?
  rw [if_neg h, List.head?_cons, if_pos rfl, List.tail_cons]

end Stratum.Toml
