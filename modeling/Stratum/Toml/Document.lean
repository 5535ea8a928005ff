/-!
# The tables of a TOML document

A document is a set of places: under each key of each table there is a value, a table, or an
array of tables. A place is filled once. What makes this more than a map is that tables come
into being in three ways, and that each way forbids some of the others later: by a header of
their own, as a step on the way to the header of another table, or by a dotted key.

> `place?_put`: what a document holds at a key after one has been filled.
-/

namespace Stratum.Toml

/-- How a table came into being. -/
inductive Opening where
  /-- On the way to the header of another table. -/
  | implied
  /-- By its own header. -/
  | header
  /-- By a dotted key. -/
  | dotted
deriving DecidableEq, Repr

/-- What is at a key. A value is kept if it is a text. -/
inductive Place where
  | value (text : Option String)
  | table (opening : Opening)
  /-- An array of that many tables. -/
  | tables (count : Nat)
deriving DecidableEq, Repr

/-- The way to a table from the root: keys, each with the number of the element where there is
an array of tables. -/
abbrev TablePath := List (String × Nat)

/-- The places that are filled. -/
abbrev Document := List ((TablePath × String) × Place)

namespace Document

/-- What is at a key of a table. -/
def place? (d : Document) (table : TablePath) (key : String) : Option Place :=
  d.lookup (table, key)

/-- Puts something at a key of a table, over what was there. -/
def put (d : Document) (table : TablePath) (key : String) (p : Place) : Document :=
  ((table, key), p) :: d

/-- Where a walk along keys has come to. -/
structure Stop where
  document : Document
  table : TablePath
  /-- How the table there came into being. -/
  opening : Opening

/-- One step along a key. A missing table is made as `opening` says. A dotted key must not step
into a table that has a header, but into the last table of an array it may. -/
def step? (opening : Opening) (s : Stop) (key : String) : Option Stop :=
  let inside (i : Nat) := s.table ++ [(key, i)]
  match s.document.place? s.table key with
  | none => some ⟨s.document.put s.table key (.table opening), inside 0, opening⟩
  | some (.table o) =>
    if opening = .dotted && o = .header then none else some ⟨s.document, inside 0, o⟩
  | some (.tables n) => some ⟨s.document, inside (n - 1), .header⟩
  | some (.value _) => none

/-- A walk along keys. -/
def walk? (opening : Opening) (s : Stop) (keys : List String) : Option Stop :=
  keys.foldlM (step? opening) s

/-- Puts a value under a key of `table`. All parts but the last lead to a table that dotted keys
have made, and the last must be free. -/
def addValue? (d : Document) (table : TablePath) (keys : List String) (text : Option String) :
    Option Document :=
  match keys.reverse with
  | [] => none
  | key :: way => do
    let s ← walk? .dotted ⟨d, table, .header⟩ way.reverse
    if (!way.isEmpty && s.opening != .dotted) || (s.document.place? s.table key).isSome then none
    else some (s.document.put s.table key (.value text))

/-- Opens the table of a header: a new one, or one that was so far only on the way to others. -/
def openTable? (d : Document) (keys : List String) : Option (Document × TablePath) :=
  match keys.reverse with
  | [] => none
  | key :: way => do
    let s ← walk? .implied ⟨d, [], .header⟩ way.reverse
    match s.document.place? s.table key with
    | none | some (.table .implied) =>
      some (s.document.put s.table key (.table .header), s.table ++ [(key, 0)])
    | _ => none

/-- Opens a new table at the end of an array of tables. -/
def openElement? (d : Document) (keys : List String) : Option (Document × TablePath) :=
  match keys.reverse with
  | [] => none
  | key :: way => do
    let s ← walk? .implied ⟨d, [], .header⟩ way.reverse
    match s.document.place? s.table key with
    | none => some (s.document.put s.table key (.tables 1), s.table ++ [(key, 0)])
    | some (.tables n) => some (s.document.put s.table key (.tables (n + 1)), s.table ++ [(key, n)])
    | _ => none

/-- What is put under a key is found there, and elsewhere nothing has changed. -/
theorem place?_put (d : Document) (t u : TablePath) (k j : String) (p : Place) :
    (d.put t k p).place? u j = if u = t ∧ j = k then some p else d.place? u j := by
  unfold put place?
  by_cases h : u = t ∧ j = k
  · rw [if_pos h, h.1, h.2, List.lookup_cons, beq_self_eq_true]
  · rw [if_neg h, List.lookup_cons, beq_false_of_ne fun e => h (Prod.mk.inj e)]

end Document

end Stratum.Toml
