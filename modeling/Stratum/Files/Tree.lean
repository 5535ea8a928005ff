import Stratum.Files.Error
import Stratum.Files.Path
import Stratum.Keyed
import Stratum.Text.Utf8

/-!
# File trees

What the machine keeps: files, directories and symbolic links under absolute paths, and the
directory in which relative paths start. A path is looked up name by name. A symbolic link on
the way is replaced by its target; only so many links are followed, so a loop of links ends in
a failure. What is there may still be kept from the one who asks: names may not be looked up in a
directory, or a file not opened, and reading a directory may break off.

> `lookup?_place`: putting something at a path changes what is there and nothing else.
-/

namespace Stratum

open Text

/-- What can be at a path. -/
inductive Entry where
  | file (content : Bytes)
  | dir
  | link (target : Bytes)
deriving DecidableEq, Repr

namespace Entry

/-- Whether this is a directory. -/
def isDir : Entry → Bool
  | dir => true
  | _ => false

end Entry

/-- The names on the way from the root to an entry. -/
abbrev Route := List Name

namespace Route

/-- The way along names that are texts. -/
def of (names : List String) : Route := names.map String.utf8

/-- Whether all names on a way are proper ones. -/
def isProper (p : Route) : Bool := p.all Path.isName

end Route

/-- What is in the way of using what a tree has. -/
structure Obstacles where
  /-- Met when a name is looked up in a directory. -/
  search : Route → Name → Option Obstacle := fun _ _ => none
  /-- Met when a file or a directory is opened. -/
  opening : Route → Option Obstacle := fun _ => none
  /-- Met when a directory is read, behind so many of its names. -/
  reading : Route → Option (Nat × Obstacle) := fun _ => none

/-- A file tree. Every path has one entry at the most; the root itself is not listed. -/
structure Files where
  entries : List (Route × Entry)
  /-- Where relative paths start. -/
  cwd : Route
  obstacles : Obstacles := {}
  nodup : (entries.map Prod.fst).Nodup
  proper : ∀ p ∈ entries.map Prod.fst, p.isProper = true

namespace Files

/-- What is at a path; the root is always there. -/
def lookup? (f : Files) (p : Route) : Option Entry :=
  if p.isEmpty then some .dir else f.entries.lookup p

/-! ## Looking up a path -/

/-- How many symbolic links are followed on the way along a path. -/
def linkLimit : Nat := 40

/-- The greatest length of a name. -/
def nameLimit : Nat := 255

/-- The greatest length of a path. -/
def pathLimit : Nat := 4095

/-- Where one name of a path leads. -/
inductive Turn where
  /-- On from a directory. -/
  | enter (p : Route)
  /-- To a file, which ends the walk. -/
  | reach (p : Route) (content : Bytes)
  /-- On from a directory, along the names of a symbolic link first. -/
  | follow (p : Route) (names : List Name)
deriving DecidableEq, Repr

/-- Takes one name in the directory `here`. -/
def turn (f : Files) (here : Route) (name : Name) : Except IoError Turn :=
  -- The slash at the end of a path names nothing that would have to be looked up.
  if name.isEmpty then .ok (.enter here)
  else
    match f.obstacles.search here name with
    | some o => .error (.obstacle o)
    | none =>
      if name = Path.self then .ok (.enter here)
      else if name = Path.parent then .ok (.enter here.dropLast)
      else if nameLimit < name.length then .error .nameTooLong
      else
        match f.lookup? (here ++ [name]) with
        | none => .error .notFound
        | some .dir => .ok (.enter (here ++ [name]))
        | some (.file content) => .ok (.reach (here ++ [name]) content)
        -- The target is seen from the directory that the link is in.
        | some (.link target) =>
          .ok (.follow (if Path.isAbsolute target then [] else here) (Path.components target))

/-- Walks from the directory `here` along names. A symbolic link is left to `follow`, which is
given the directory that the target starts in, and the names of the target with those that are
left. -/
def along (f : Files) (follow : Route → List Name → Except IoError (Route × Entry)) :
    Route → List Name → Except IoError (Route × Entry)
  | here, [] => .ok (here, .dir)
  | here, name :: rest =>
    match f.turn here name with
    | .error e => .error e
    | .ok (.enter p) => along f follow p rest
    -- A file ends the walk, so nothing may be left to go along, not even a full stop.
    | .ok (.reach p content) =>
      if rest.isEmpty then .ok (p, .file content) else .error .notADirectory
    | .ok (.follow p names) => follow p (names ++ rest)

/-- Walks along names from a directory, and follows up to that many symbolic links. The result is
the place that was reached, free of links, and what is there. -/
def walk (f : Files) : Nat → Route → List Name → Except IoError (Route × Entry)
  | 0 => along f fun _ _ => .error .tooManyLinks
  | links + 1 => along f (walk f links)

/-- Where a walk along a path starts. -/
def start (f : Files) (path : Bytes) : Route := if Path.isAbsolute path then [] else f.cwd

/-- Looks up a path as the operating system does. -/
def find (f : Files) (path : Bytes) : Except IoError (Route × Entry) :=
  if path.contains 0 then .error .nulInName
  else if path.isEmpty then .error .notFound
  else if pathLimit < path.length then .error .nameTooLong
  else walk f linkLimit (f.start path) (Path.components path)

/-- Looks up a path that is a text. -/
def resolve (f : Files) (path : String) : Except IoError (Route × Entry) := f.find path.utf8

/-- Whether a path leads to anything that can be looked at. -/
def contains (f : Files) (path : String) : Bool := (f.resolve path).isOk

/-- Whether a path is seen to lead to a directory. -/
def leadsToDir (f : Files) (path : Bytes) : Bool :=
  match f.find path with
  | .ok (_, e) => e.isDir
  | .error _ => false

/-- The same of a path that is a text. -/
def isDir (f : Files) (path : String) : Bool := f.leadsToDir path.utf8

/-- The content of the file at a path. -/
def read (f : Files) (path : String) : Except IoError Bytes :=
  match f.resolve path with
  | .error e => .error e
  | .ok (p, e) =>
    match f.obstacles.opening p, e with
    | some o, _ => .error (.obstacle o)
    | none, .file content => .ok content
    | none, _ => .error .isADirectory

/-! ## Reading a directory -/

/-- The name of an entry inside the directory `p`, if it is directly inside. -/
def childName? (p : Route) (q : Route) : Option Name :=
  if q.dropLast = p then q.getLast? else none

/-- The names inside a directory, in no particular order. -/
def children (f : Files) (p : Route) : List Name :=
  (f.entries.map Prod.fst).filterMap (childName? p)

/-- What comes of reading a directory to its end, or as far as one gets. -/
structure Listing where
  names : List Name
  /-- What has ended the reading early. -/
  failure : Option IoError
deriving DecidableEq, Repr

/-- The names that are read in the directory `p`, one after the other, once it is open. -/
def listingAt (f : Files) (p : Route) : Listing :=
  match f.obstacles.reading p with
  | some (n, o) => ⟨(f.children p).take n, some (.obstacle o)⟩
  | none => ⟨f.children p, none⟩

/-- The names that are read in the directory at a path. -/
def listing (f : Files) (path : String) : Except IoError Listing :=
  match f.resolve path with
  | .error e => .error e
  | .ok (p, .dir) =>
    match f.obstacles.opening p with
    | some o => .error (.obstacle o)
    | none => .ok (f.listingAt p)
  | .ok _ => .error .notADirectory

/-- All names in the directory at a path. -/
def names (f : Files) (path : String) : Except IoError (List Name) :=
  match f.listing path with
  | .error e => .error e
  | .ok ⟨_, some e⟩ => .error e
  | .ok ⟨names, none⟩ => .ok names

/-! ## Changing a tree -/

/-- The tree without the entries whose paths satisfy `p`. -/
def dropWhere (f : Files) (p : Route → Bool) : Files where
  entries := f.entries.filter fun e => !p e.1
  cwd := f.cwd
  obstacles := f.obstacles
  nodup := List.Nodup.sublist (List.filter_sublist.map _) f.nodup
  proper := fun q hq => f.proper q ((List.filter_sublist.map _).subset hq)

/-- The tree with an entry at a path, instead of what was there. Nothing can be put where a name
is none. -/
def place (f : Files) (p : Route) (e : Entry) : Files :=
  if hp : p.isProper = true then {
    entries := (p, e) :: (f.dropWhere (· == p)).entries
    cwd := f.cwd
    obstacles := f.obstacles
    nodup := by
      refine List.nodup_cons.2 ⟨fun h => ?_, (f.dropWhere _).nodup⟩
      obtain ⟨⟨q, x⟩, hx, hq⟩ := List.mem_map.1 h
      have := (List.mem_filter.1 hx).2
      simp_all
    proper := by
      intro q hq
      rcases List.mem_cons.1 hq with rfl | hq
      · exact hp
      · exact (f.dropWhere _).proper q hq }
  else f

/-- Goes along names from the directory `here`, and makes the directories that are missing. The
result is the tree and the directory that was reached; `none` if something else is in the way. -/
def makeDirs (f : Files) (here : Route) : List Name → Option (Files × Route)
  | [] => some (f, here)
  | name :: rest =>
    if name.isEmpty || name == Path.self then makeDirs f here rest
    else if name = Path.parent then makeDirs f here.dropLast rest
    else
      match f.lookup? (here ++ [name]) with
      | none => makeDirs (f.place (here ++ [name]) .dir) (here ++ [name]) rest
      | some .dir => makeDirs f (here ++ [name]) rest
      | some _ =>
        match walk f linkLimit here [name] with
        | .ok (p, .dir) => makeDirs f p rest
        | _ => none

/-- The place that a name in the directory `here` stands for when something is written there:
of a symbolic link, the place it leads to. -/
def writePlace (f : Files) (here : Route) (name : Name) : Route :=
  match walk f linkLimit here [name] with
  | .ok (p, _) => p
  | .error _ => here ++ [name]

/-- Puts an entry at a path, with the directories on the way to it. A file takes the place of a
file, also behind a symbolic link; a directory that is there stays. -/
def put (f : Files) (path : String) (e : Entry) : Files :=
  let names := Path.components path.utf8
  match makeDirs f (f.start path.utf8) names.dropLast, names.getLast? with
  | some (g, here), some name =>
    match e with
    | .dir => ((makeDirs g here [name]).map Prod.fst).getD g
    | .file _ => g.place (g.writePlace here name) e
    | .link _ => g.place (here ++ [name]) e
  | _, _ => f

/-- Removes what is at a path and everything inside it; of a symbolic link, the link. -/
def remove (f : Files) (path : String) : Files :=
  let names := Path.components path.utf8
  match walk f linkLimit (f.start path.utf8) names.dropLast, names.getLast? with
  | .ok (here, .dir), some name => f.dropWhere fun p => (here ++ [name]).isPrefixOf p
  | _, _ => f

/-- A machine on which nothing is installed: the usual directories, a null device, and an empty
working directory. -/
def bare : Files where
  entries :=
    ["bin", "dev", "etc", "home", "lib", "mnt", "opt", "proc", "root", "run", "sbin", "srv", "sys",
      "tmp", "usr", "var"].map (fun name => (Route.of [name], Entry.dir)) ++
      [(Route.of ["dev", "null"], .file []), (Route.of ["tmp", "work"], .dir)]
  cwd := Route.of ["tmp", "work"]
  nodup := by decide +kernel
  proper := by decide +kernel

/-- What is placed is found at its path, and elsewhere nothing has changed. -/
theorem lookup?_place {f : Files} {p : Route} (hp : p ≠ []) (proper : p.isProper = true)
    (e : Entry) (q : Route) :
    (f.place p e).lookup? q = if q = p then some e else f.lookup? q := by
  unfold place
  rw [dif_pos proper]
  unfold lookup? dropWhere
  rw [Keyed.lookup_cons, Keyed.lookup_filter (fun r => !(r == p))]
  by_cases h : q = p
  · subst h
    simp [hp]
  · simp [h]

end Files

end Stratum
