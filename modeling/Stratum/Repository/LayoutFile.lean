import Stratum.Failure
import Stratum.Files.Tree
import Stratum.Layout
import Stratum.Text.Utf8
import Stratum.Toml.Reader

/-!
# Layout files

A layout file is a TOML document that sets some of the fields of a layout. The fields it does
not set keep their defaults, other keys are passed over, and a field that is set to anything
but a text makes the whole file invalid.

> `ofDocument?_congr`: nothing but the fields of a layout counts.
-/

namespace Stratum.Layout

open Text

/-- Sets a field as the document says, if it does. -/
def setFrom? (d : Toml.Document) (l : Layout) (f : Field) : Option Layout :=
  match d.place? [] f.name with
  | none => some l
  | some (.value (some text)) => some (l.set text f)
  | some _ => none

/-- The layout that a document describes. -/
def ofDocument? (d : Toml.Document) : Option Layout := Field.all.foldlM (setFrom? d) {}

/-- The layout that the content of a file describes; `path` is named in the failure. -/
def ofFile (path : String) (content : Bytes) : Except Failure Layout :=
  match Utf8.decode? content with
  | none => .error (.io .notUtf8)
  | some text =>
    match (Toml.ofText? text).bind ofDocument? with
    | some l => .ok l
    | none => .error (.badLayout path)

/-- The layout in the file at a path, or the stock one. -/
def load (f : Files) : Option String → Except Failure Layout
  | none => .ok {}
  | some path =>
    match f.read path with
    | .error e => .error (.io e)
    | .ok content => ofFile path content

/-- Documents that say the same of every field of a layout describe the same layout. -/
theorem ofDocument?_congr {d d' : Toml.Document}
    (h : ∀ f : Field, d.place? [] f.name = d'.place? [] f.name) :
    ofDocument? d = ofDocument? d' := by
  have hset : setFrom? d = setFrom? d' := by
    funext l f
    unfold setFrom?
    rw [h f]
  unfold ofDocument?
  rw [hset]

end Stratum.Layout
