import Stratum.Text.Blank
import Stratum.Text.CharMap
import Stratum.Text.Lines
import Stratum.Text.Numeral
import Stratum.Text.Quoted

/-!
# The manifest of a repository

A manifest is a signed text whose header says what was published. Every line of the header
is a field: its first character is the key, the rest the value. The header ends with a line
`--`; the signature after it is not looked at. A key counts once, where it comes first.

Reading goes in two steps. `Manifest.fields` collects the values of all keys, in whatever
order and encoding they come; `Manifest.ofFields` decides what they mean and is where a
manifest is refused. `Manifest.entries` is the way back: the fields that a manifest holds.

> `fields_append_of_mem`: a key that has occurred cannot be given again.
-/

namespace Stratum

open Text

/-- What a manifest says about its repository. -/
structure Manifest where
  /-- The fully qualified name of the repository (`N`). -/
  repositoryName : String
  /-- The hash of the root catalog (`C`). -/
  rootCatalog : Option String
  /-- The hash of the root entry's path (`R`). -/
  rootHash : Option String
  /-- The size of the root catalog in bytes (`B`). -/
  rootCatalogSize : Option UInt64
  /-- The hash of the signing certificate (`X`). -/
  certificate : Option String
  /-- The hash of the tag history (`H`). -/
  historyDatabase : Option String
  /-- When it was published, in seconds since 1970-01-01 (`T`). -/
  lastModified : Option Int64
  /-- How long the root catalog may be kept, in seconds (`D`). -/
  ttl : Option UInt64
  /-- The number of the revision (`S`). -/
  revision : Option UInt64
  /-- Whether unreferenced content may be removed (`G`). -/
  garbageCollectable : Bool
  /-- The fields under any other key. -/
  other : CharMap
deriving DecidableEq

/-- Why a header is refused. -/
inductive ManifestError where
  /-- There is no `N`, or its value is empty. -/
  | noName
  /-- The value of a numeric field is not a number that fits. -/
  | notANumber (key : Char) (value : String)
deriving DecidableEq, Repr

namespace ManifestError

/-- What is wrong, in words. -/
def message : ManifestError → String
  | noName => "missing repository name"
  | notANumber key value => "field " ++ key.toString ++ " is not a number: " ++ value.quoted

end ManifestError

namespace Manifest

/-- Characters that can end a line. -/
def isLineEnd (c : Char) : Bool := c == '\r' || c == '\n'

/-- A line as text, damaged characters replaced, without the line ends behind it. -/
def lineText (l : Line) : List Char := dropEndWhile isLineEnd (Utf8.decodeLossy l.bytes)

/-- The line that ends the header. -/
def terminator : List Char := ['-', '-']

/-- The lines of the header. -/
def header (content : Bytes) : List (List Char) :=
  ((Line.ofBytes content).map lineText).takeWhile (· != terminator)

/-- Adds the field of one line, unless its key has occurred; an empty line is no field. -/
def addLine (m : CharMap) : List Char → CharMap
  | [] => m
  | key :: value => m.insertNew key (String.ofList value)

/-- The values of all keys of a header. -/
def fields (lines : List (List Char)) : CharMap := lines.foldl addLine CharMap.empty

/-- The keys with a meaning of their own. -/
def knownKeys : List Char := ['N', 'C', 'R', 'B', 'X', 'H', 'T', 'D', 'S', 'G']

/-- The numeric field under a key, read by `reader` after trimming. -/
def number {α : Type} (reader : List Char → Option α) (m : CharMap) (key : Char) :
    Except ManifestError (Option α) :=
  match m.get? key with
  | none => .ok none
  | some value =>
    match reader (trim value.toList) with
    | some n => .ok (some n)
    | none => .error (.notANumber key value)

/-- The manifest with these fields. The name is looked at first, then the numbers in the
order `B`, `T`, `D`, `S`. -/
def ofFields (m : CharMap) : Except ManifestError Manifest :=
  -- An empty name is as good as none.
  match (m.get? 'N').filter (· != "") with
  | none => .error .noName
  | some name => do
    let size ← number Numeral.readUInt64? m 'B'
    let modified ← number Numeral.readInt64? m 'T'
    let ttl ← number Numeral.readUInt64? m 'D'
    let revision ← number Numeral.readUInt64? m 'S'
    return {
      repositoryName := name
      rootCatalog := m.get? 'C'
      rootHash := m.get? 'R'
      rootCatalogSize := size
      certificate := m.get? 'X'
      historyDatabase := m.get? 'H'
      lastModified := modified
      ttl := ttl
      revision := revision
      garbageCollectable := m.get? 'G' == some "yes"
      other := m.filterKeys fun k => !knownKeys.contains k }

/-- The manifest at the front of a byte string. -/
def ofBytes (content : Bytes) : Except ManifestError Manifest := ofFields (fields (header content))

/-! ## The fields that a manifest holds -/

/-- An unsigned number as the value of a field. -/
def unsignedText (n : UInt64) : String := String.ofList (Numeral.digits n.toNat)

/-- A signed number as the value of a field. -/
def signedText (n : Int64) : String := String.ofList (Numeral.signed n.toInt)

/-- The fields that are present, each with its key and its value. -/
def entries (m : Manifest) : List (Char × String) :=
  [some ('N', m.repositoryName), m.rootCatalog.map ('C', ·), m.rootHash.map ('R', ·),
    m.rootCatalogSize.map fun n => ('B', unsignedText n), m.certificate.map ('X', ·),
    m.historyDatabase.map ('H', ·), m.lastModified.map fun n => ('T', signedText n),
    m.ttl.map fun n => ('D', unsignedText n), m.revision.map fun n => ('S', unsignedText n),
    if m.garbageCollectable then some ('G', "yes") else none].reduceOption ++ m.other.entries

/-- The line of one field. -/
def fieldLine (e : Char × String) : Bytes := Utf8.encode (e.1 :: e.2.toList) ++ [Line.feed]

/-- A header with these fields in this order, and the line that ends it. -/
def headerOf (es : List (Char × String)) : Bytes :=
  es.flatMap fieldLine ++ (Utf8.encode terminator ++ [Line.feed])

/-! ## A key counts where it comes first -/

/-- A further line comes after those before it. -/
theorem fields_concat (lines : List (List Char)) (l : List Char) :
    fields (lines ++ [l]) = addLine (fields lines) l := by
  simp [fields]

/-- A line whose key has been there adds nothing. -/
theorem fields_append_of_mem {lines : List (List Char)} {k : Char} (v : List Char)
    (h : (fields lines).contains k = true) : fields (lines ++ [k :: v]) = fields lines := by
  rw [fields_concat]
  exact if_pos h

end Manifest

end Stratum
