import Stratum.Files.Tree
import Stratum.Proofs.Outcome
import Stratum.Proofs.Paths
import Mathlib.Data.List.Nodup

/-!
# Walks along paths

A walk along two stretches of names is a walk along the first one and then, with the links that
are still allowed, a walk along the second. So what a walk does with its last name is seen from
the directory that the names before it lead to.

> `walk_append`: a walk along two stretches stops at a directory in between.
> `mem_names_of_find`: a name that leads to something below a path is listed among the names
> at that path.
-/

namespace Stratum

open Text

namespace Files

variable {f : Files} {here : Route} {name : Name} {r : Route × Entry}

/-! ## One name -/

/-- What a proper name leads to is an entry of the directory that it is looked up in. -/
theorem lookup?_of_turn (hname : Path.isName name = true) {t : Turn} (h : f.turn here name = .ok t) :
    (f.lookup? (here ++ [name])).isSome = true := by
  obtain ⟨hne, hself, hparent, -, -⟩ := Path.isName_iff.1 hname
  unfold turn at h
  rw [List.isEmpty_eq_false_iff.2 hne, if_neg Bool.false_ne_true] at h
  split at h
  next => cases h
  next =>
    rw [if_neg hself, if_neg hparent] at h
    split at h
    next => cases h
    next =>
      cases hentry : f.lookup? (here ++ [name]) with
      | some e => rfl
      | none =>
        rw [hentry] at h
        cases h

/-! ## Two stretches -/

/-- Without any link left, the first one ends the walk. -/
theorem walk_zero (f : Files) : walk f 0 = along f fun _ _ => .error .tooManyLinks := rfl

/-- With links left, a link is walked with one fewer. -/
theorem walk_succ (f : Files) (links : Nat) : walk f (links + 1) = along f (walk f links) := rfl

/-- Along two stretches of names there is a directory in between, from which the second stretch is
walked with some number of links left. It is enough if `follow` does so, and if it is known which
walk this is. -/
theorem along_append {follow : Route → List Name → Except IoError (Route × Entry)} {links : Nat}
    (hself : walk f links = along f follow)
    (hfollow : ∀ here xs ys r, ys ≠ [] → follow here (xs ++ ys) = .ok r →
      ∃ p left, follow here xs = .ok (p, .dir) ∧ walk f left p ys = .ok r)
    {xs ys : List Name} (hys : ys ≠ []) (h : along f follow here (xs ++ ys) = .ok r) :
    ∃ p left, along f follow here xs = .ok (p, .dir) ∧ walk f left p ys = .ok r := by
  -- Every name hands over to the rest of its stretch; only a link hands over to `follow`.
  induction xs generalizing here with
  | nil => exact ⟨here, links, by rw [along], by rw [hself]; exact h⟩
  | cons name rest ih =>
    rw [List.cons_append] at h
    unfold along at h ⊢
    cases hturn : f.turn here name with
    | error e =>
      rw [hturn] at h
      cases h
    | ok t =>
      rw [hturn] at h
      cases t with
      | enter p => exact ih h
      | reach p content =>
        -- Names are left, so a file cannot be on the way.
        have hleft : (rest ++ ys).isEmpty = false := by simp [hys]
        simp only [hleft] at h
        cases h
      | follow p names =>
        simp only [← List.append_assoc] at h
        exact hfollow _ _ _ _ hys h

/-- **Two stretches of a walk.** A walk that gets along both stops at a directory in between. -/
theorem walk_append {links : Nat} {xs ys : List Name} (hys : ys ≠ [])
    (h : walk f links here (xs ++ ys) = .ok r) :
    ∃ p left, walk f links here xs = .ok (p, .dir) ∧ walk f left p ys = .ok r := by
  induction links generalizing here xs ys r with
  | zero =>
    rw [walk_zero] at h ⊢
    refine along_append (walk_zero f) (fun _ _ _ _ _ h => ?_) hys h
    cases h
  | succ links ih =>
    rw [walk_succ] at h ⊢
    exact along_append (walk_succ f links) (fun _ _ _ _ hys h => ih hys h) hys h

/-- From a directory every number of links is enough for the slash at the end. -/
theorem walk_nil_name (f : Files) (links : Nat) (here : Route) :
    walk f links here [[]] = .ok (here, .dir) := by
  cases links <;> rfl

/-- A slash behind a walk changes nothing, unless the walk ends at something that is no
directory. -/
theorem walk_of_walk_slash {links : Nat} {xs : List Name}
    (h : walk f links here (xs ++ [[]]) = .ok r) : walk f links here xs = .ok r := by
  obtain ⟨p, left, hp, hr⟩ := walk_append (List.cons_ne_nil _ _) h
  rw [walk_nil_name] at hr
  rw [hp, hr]

/-- What one step finds under a name is listed. -/
theorem lookup?_of_walk_name {links : Nat} (hname : Path.isName name = true)
    (h : walk f links here [name] = .ok r) : (f.lookup? (here ++ [name])).isSome = true := by
  obtain ⟨follow, hfollow⟩ : ∃ follow, walk f links = along f follow := by
    cases links with
    | zero => exact ⟨_, walk_zero f⟩
    | succ links => exact ⟨_, walk_succ f links⟩
  rw [hfollow] at h
  unfold along at h
  cases hturn : f.turn here name with
  | error e =>
    rw [hturn] at h
    cases h
  | ok t => exact lookup?_of_turn hname hturn

/-! ## Paths -/

/-- A path that leads somewhere is one that can be asked for, and the walk along its names gets
there. -/
theorem find_eq_ok_iff {path : Bytes} :
    f.find path = .ok r ↔
      (0 : UInt8) ∉ path ∧ path ≠ [] ∧ path.length ≤ pathLimit ∧
      walk f linkLimit (f.start path) (Path.components path) = .ok r := by
  unfold find
  by_cases hnul : (0 : UInt8) ∈ path
  · simp [hnul]
  by_cases hempty : path = []
  · simp [hempty]
  by_cases hlong : pathLimit < path.length
  · simp [hnul, hempty, hlong, Nat.not_le.2 hlong]
  · simp [hnul, hempty, hlong, Nat.le_of_not_lt hlong]

/-- Without a slash at its end a path leads to the same. -/
theorem walk_stem_of_find {path : Bytes} (h : f.find path = .ok r) :
    walk f linkLimit (f.start path) (Path.stem path) = .ok r := by
  obtain ⟨-, -, -, hwalk⟩ := find_eq_ok_iff.1 h
  rw [Path.components_eq] at hwalk
  split at hwalk
  · exact walk_of_walk_slash hwalk
  · rwa [List.append_nil] at hwalk

/-- What a proper name leads to below a path is an entry of the directory at that path. -/
theorem lookup?_of_find_under {path : Bytes} {p : Route} (hpath : f.find path = .ok (p, .dir))
    (hname : Path.isName name = true) (h : f.find (Path.under path name) = .ok r) :
    (f.lookup? (p ++ [name])).isSome = true := by
  have hne : path ≠ [] := (find_eq_ok_iff.1 hpath).2.1
  have hstart : f.start (Path.under path name) = f.start path := by
    unfold start
    rw [Path.isAbsolute_under hne (Path.isAbsolute_name hname)]
  obtain ⟨-, -, -, hwalk⟩ := find_eq_ok_iff.1 h
  rw [hstart, Path.components_under_name hne hname] at hwalk
  obtain ⟨q, left, hq, hlast⟩ := walk_append (List.cons_ne_nil _ _) hwalk
  -- The walk to the directory is the one along its own path.
  have hpq : q = p := by
    rw [walk_stem_of_find hpath] at hq
    cases hq
    rfl
  rw [← hpq]
  exact lookup?_of_walk_name hname hlast

/-- A path that is seen to lead to a directory is found to be one. -/
theorem leadsToDir_iff {path : Bytes} :
    f.leadsToDir path = true ↔ ∃ p, f.find path = .ok (p, .dir) := by
  unfold leadsToDir
  cases hfind : f.find path with
  | error e => simp
  | ok r =>
    obtain ⟨p, e⟩ := r
    cases e <;> simp [Entry.isDir]

/-! ## The names in a directory -/

theorem childName?_eq_some_iff {p q : Route} {n : Name} :
    childName? p q = some n ↔ q = p ++ [n] := by
  unfold childName?
  constructor
  · intro h
    split at h
    next hp => rw [← hp, List.dropLast_append_getLast? n h]
    next => cases h
  · intro h
    rw [h, List.dropLast_concat, if_pos rfl, List.getLast?_concat]

/-- The names in a directory are those under which it has an entry. -/
theorem mem_children_iff {p : Route} {n : Name} :
    n ∈ f.children p ↔ (f.lookup? (p ++ [n])).isSome = true := by
  have hlookup : f.lookup? (p ++ [n]) = f.entries.lookup (p ++ [n]) := by
    unfold lookup?
    rw [List.isEmpty_eq_false_iff.2 (by simp), if_neg Bool.false_ne_true]
  unfold children
  rw [hlookup, List.lookup_isSome_iff, List.mem_filterMap]
  constructor
  · rintro ⟨q, hq, hn⟩
    obtain ⟨x, hx, rfl⟩ := List.mem_map.1 hq
    exact ⟨x, hx, beq_iff_eq.2 (childName?_eq_some_iff.1 hn).symm⟩
  · rintro ⟨x, hx, hn⟩
    exact ⟨x.1, List.mem_map_of_mem hx, childName?_eq_some_iff.2 (eq_of_beq hn).symm⟩

/-- No name is in a directory twice. -/
theorem nodup_children (f : Files) (p : Route) : (f.children p).Nodup := by
  refine List.Nodup.filterMap ?_ f.nodup
  intro q q' n hq hq'
  rw [childName?_eq_some_iff.1 hq, childName?_eq_some_iff.1 hq']

/-- The names in a directory are proper ones. -/
theorem isName_of_mem_children {p : Route} {n : Name} (h : n ∈ f.children p) :
    Path.isName n = true := by
  obtain ⟨q, hq, hqn⟩ := List.mem_filterMap.1 h
  have hproper := List.all_eq_true.1 (f.proper q hq)
  rw [childName?_eq_some_iff.1 hqn] at hproper
  exact hproper n (List.mem_append_right p List.mem_cons_self)

/-- A directory that can be opened is there. -/
theorem listing_eq_ok_iff {path : String} {l : Listing} :
    f.listing path = .ok l ↔
      ∃ p, f.resolve path = .ok (p, .dir) ∧ f.obstacles.opening p = none ∧ f.listingAt p = l := by
  unfold listing
  cases hfind : f.resolve path with
  | error e => simp
  | ok r =>
    obtain ⟨p, e⟩ := r
    cases e with
    | file content => simp
    | link target => simp
    | dir => cases hopen : f.obstacles.opening p <;> simp [hopen]

/-- All names of a directory are read if nothing ends the reading. -/
theorem names_eq_iff_listing {path : String} {ns : List Name} :
    f.names path = .ok ns ↔ f.listing path = .ok ⟨ns, none⟩ := by
  unfold names
  cases f.listing path with
  | error e => simp
  | ok l =>
    obtain ⟨read, failure⟩ := l
    cases failure <;> simp

/-- **The names of a directory** can be read if nothing is in the way, and they are its entries. -/
theorem names_eq_ok_iff {path : String} {ns : List Name} :
    f.names path = .ok ns ↔
      ∃ p, f.resolve path = .ok (p, .dir) ∧ f.obstacles.opening p = none ∧
        f.obstacles.reading p = none ∧ f.children p = ns := by
  rw [names_eq_iff_listing, listing_eq_ok_iff]
  refine exists_congr fun p => and_congr_right fun _ => and_congr_right fun _ => ?_
  unfold listingAt
  cases f.obstacles.reading p with
  | none => simp
  | some x => simp

/-- So a directory whose names can be read is there. -/
theorem eq_children_of_names {path : String} {ns : List Name} (h : f.names path = .ok ns) :
    ∃ p, f.resolve path = .ok (p, .dir) ∧ ns = f.children p := by
  obtain ⟨p, hp, -, -, hchildren⟩ := names_eq_ok_iff.1 h
  exact ⟨p, hp, hchildren.symm⟩

/-- **A name that leads to something is listed**: below a path whose names can be read, it is one
of them. -/
theorem mem_names_of_find {path : String} {ns : List Name} (hns : f.names path = .ok ns)
    (hname : Path.isName name = true) (h : f.find (Path.under path.utf8 name) = .ok r) :
    name ∈ ns := by
  obtain ⟨p, hp, rfl⟩ := eq_children_of_names hns
  exact mem_children_iff.2 (lookup?_of_find_under hp hname h)

end Files

end Stratum
