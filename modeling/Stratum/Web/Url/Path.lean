import Stratum.Web.Percent

/-!
# Paths of URLs

A path is a list of segments with slashes between them. A segment of one or two dots, which may
also be percent-encoded, stands for the directory itself or the one above, and is resolved when
the path is read; no path leads above its root.

> `resolve_plain`: segments without dots stay as they are.
-/

namespace Stratum

namespace UrlPath

/-- A segment that stands for the directory itself. -/
def isDot (s : List Char) : Bool := ["." , "%2e"].contains (String.ofList (s.map Char.toLower))

/-- A segment that stands for the directory above. -/
def isDotDot (s : List Char) : Bool :=
  ["..", ".%2e", "%2e.", "%2e%2e"].contains (String.ofList (s.map Char.toLower))

/-- A letter with a colon or a bar: the name of a drive. -/
def isDrive : List Char → Bool
  | [c, d] => c.isAlpha && (d == ':' || d == '|')
  | _ => false

/-- The segments so far without the last one. In a path of files the name of a drive stays. -/
def up (files : Bool) (done : List (List Char)) : List (List Char) :=
  match done with
  | [d] => if files && isDrive d then done else []
  | _ => done.dropLast

/-- Resolves the dots in segments, after the segments `done`. A dot at the end leaves an empty
segment, so that the path still ends with a slash. -/
def resolve (files : Bool) (done : List (List Char)) : List (List Char) → List (List Char)
  | [] => done
  | s :: rest =>
    if isDotDot s then
      let done := up files done
      if rest.isEmpty then done ++ [[]] else resolve files done rest
    else if isDot s then if rest.isEmpty then done ++ [[]] else resolve files done rest
    else resolve files (done ++ [s]) rest

/-- Whether a character ends a segment. -/
def isSlash (special : Bool) (c : Char) : Bool := c == '/' || (special && c == '\\')

/-- A path from what stands behind its first slash. -/
def ofText (special files : Bool) (s : List Char) : List Char :=
  let segments := (s.splitOnP (isSlash special)).map (Percent.encode Percent.path)
  '/' :: ['/'].intercalate (resolve files [] segments)

/-- Segments that are no dots are left as they are. -/
theorem resolve_plain {files : Bool} {done segments : List (List Char)}
    (h : ∀ s ∈ segments, isDot s = false ∧ isDotDot s = false) :
    resolve files done segments = done ++ segments := by
  induction segments generalizing done with
  | nil => simp [resolve]
  | cons s rest ih =>
    have hs := h s List.mem_cons_self
    unfold resolve
    rw [hs.1, hs.2]
    simp [ih fun t ht => h t (List.mem_cons_of_mem _ ht)]

end UrlPath

end Stratum
