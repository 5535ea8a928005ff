import Stratum.Failure
import Stratum.Files.Tree
import Stratum.Text.Blank
import Stratum.Text.Lines

/-!
# Server configurations

The server configuration of a local repository is a file of lines `KEY=value`. A field is
looked up by its text: the first line that starts with it counts, one byte behind it is taken
for the separator, and the rest of the line without surrounding blanks is the value. Lines
after that one are not looked at, so they need not even be text.

> `readOptional_eq_none_iff`: an optional field is missing exactly if no line starts with it.
-/

namespace Stratum

open Text

/-- What looking a field up comes to. -/
inductive FieldLookup where
  | found (value : String)
  | missing
  /-- A line before the field is not text. -/
  | notUtf8
deriving DecidableEq, Repr

/-- What stands behind the separator in the rest of a line: nothing, if there is no separator or
if it is longer than a byte. -/
def fieldValue : List Char → List Char
  | [] => []
  | c :: r => if c.utf8Size = 1 then trim r else []

/-- Looks a field up in lines. -/
def lookupField (field : List Char) : List Line → FieldLookup
  | [] => .missing
  | l :: ls =>
    match Utf8.decode? l.content with
    | none => .notUtf8
    | some text =>
      if field.isPrefixOf text then .found (String.ofList (fieldValue (text.drop field.length)))
      else lookupField field ls

/-- The server configuration of a repository: whose it is, and where. -/
structure ServerConf where
  fqrn : String
  path : String
deriving DecidableEq, Repr

namespace ServerConf

/-- What a field holds in a file with this content. -/
def ofContent (c : ServerConf) (field : String) (content : Bytes) : Except Failure String :=
  match lookupField field.toList (Line.ofBytes content) with
  | .found value => .ok value
  | .missing => .error (.fieldNotFound c.fqrn field)
  | .notUtf8 => .error (.io .notUtf8)

/-- What a field holds; the file is read anew each time. -/
def read (c : ServerConf) (f : Files) (field : String) : Except Failure String :=
  match f.read c.path with
  | .error e => .error (.io e)
  | .ok content => c.ofContent field content

/-- What a field holds that may be missing. -/
def readOptional (c : ServerConf) (f : Files) (field : String) : Except Failure (Option String) :=
  match c.read f field with
  | .ok value => .ok (some value)
  | .error (.fieldNotFound _ _) => .ok none
  | .error e => .error e

/-- An optional field is missing exactly if the field is reported as missing. -/
theorem readOptional_eq_none_iff {c : ServerConf} {f : Files} {field : String} :
    c.readOptional f field = .ok none ↔ c.read f field = .error (.fieldNotFound c.fqrn field) := by
  unfold readOptional read ofContent
  cases f.read c.path with
  | error e => simp
  | ok content => cases h : lookupField field.toList (Line.ofBytes content) <;> simp [h]

end ServerConf

end Stratum
