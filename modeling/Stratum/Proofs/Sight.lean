import Stratum.Proofs.Walk

/-!
# What is there and what is seen

Looking up a path can fail though something is there: a directory on the way may not be searched, a
device may fail, the path may be too long, or too many links may be on the way. `Leads` says where a
path leads whoever asks, and `Hindered` that one of these things is in the way of looking. All that
a program asks is what it can see, so it takes what it cannot see for what is not there.

> `leads_of_resolve`: what is seen is there.
> `contains_eq_false_iff`, `isDir_eq_false_iff`: what is not seen is not there, or looking is
> hindered.
-/

namespace Stratum

open Text

namespace IoError

/-- A failure that says nothing of what is at a path. -/
def Hinders : IoError → Prop
  | obstacle _ => True
  | nameTooLong => True
  | tooManyLinks => True
  | _ => False

end IoError

namespace Files

variable {f : Files} {here : Route} {names : List Name} {r : Route × Entry}

/-- The tree with nothing in the way. -/
def cleared (f : Files) : Files := { f with obstacles := {} }

/-- A path leads to something: it is one that can be asked for, and with nothing in the way and
links enough the walk along its names gets there. -/
def Leads (f : Files) (path : String) (r : Route × Entry) : Prop :=
  (0 : UInt8) ∉ path.utf8 ∧ path.utf8 ≠ [] ∧
    ∃ links, walk f.cleared links (f.start path.utf8) (Path.components path.utf8) = .ok r

/-- Something is at a path. -/
def Has (f : Files) (path : String) : Prop := ∃ r, f.Leads path r

/-- A directory is at a path. -/
def HasDir (f : Files) (path : String) : Prop := ∃ p, f.Leads path (p, .dir)

/-- A path cannot be looked up, whatever is there. -/
def Hindered (f : Files) (path : String) : Prop := ∃ e, f.resolve path = .error e ∧ e.Hinders

/-! ## Obstacles -/

/-- With nothing in the way a name leads where it leads otherwise, unless it meets an obstacle. -/
theorem turn_cleared (f : Files) (here : Route) (name : Name) :
    (∃ o, f.turn here name = .error (.obstacle o)) ∨ f.cleared.turn here name = f.turn here name := by
  unfold turn
  by_cases hempty : name.isEmpty = true
  · rw [if_pos hempty, if_pos hempty]
    exact Or.inr rfl
  rw [if_neg hempty, if_neg hempty]
  cases f.obstacles.search here name with
  | some o => exact Or.inl ⟨o, rfl⟩
  | none => exact Or.inr rfl

/-- Two walks that follow links alike are alike, up to a failure that both may have in common. -/
theorem along_or {g : Files} {follow follow' : Route → List Name → Except IoError (Route × Entry)}
    {P : IoError → Prop}
    (hturn : ∀ here name, (∃ e, f.turn here name = .error e ∧ P e) ∨
      g.turn here name = f.turn here name)
    (hfollow : ∀ here names, (∃ e, follow here names = .error e ∧ P e) ∨
      follow' here names = follow here names) (here : Route) (names : List Name) :
    (∃ e, along f follow here names = .error e ∧ P e) ∨
      along g follow' here names = along f follow here names := by
  induction names generalizing here with
  | nil => exact Or.inr rfl
  | cons name rest ih =>
    unfold along
    rcases hturn here name with ⟨e, he, hP⟩ | hsame
    · rw [he]
      exact Or.inl ⟨e, rfl, hP⟩
    rw [hsame]
    cases f.turn here name with
    | error e => exact Or.inr rfl
    | ok t =>
      cases t with
      | enter p => exact ih p
      | reach p content => exact Or.inr rfl
      | follow p target => exact hfollow p (target ++ rest)

/-- With nothing in the way a walk is as before, unless it met an obstacle. -/
theorem walk_cleared (f : Files) (links : Nat) (here : Route) (names : List Name) :
    (∃ e, walk f links here names = .error e ∧ e.Hinders) ∨
      walk f.cleared links here names = walk f links here names := by
  have hturn (here : Route) (name : Name) : (∃ e, f.turn here name = .error e ∧ e.Hinders) ∨
      f.cleared.turn here name = f.turn here name := by
    refine (f.turn_cleared here name).imp_left ?_
    rintro ⟨o, ho⟩
    exact ⟨_, ho, trivial⟩
  induction links generalizing here names with
  | zero => exact along_or hturn (fun _ _ => Or.inr rfl) here names
  | succ links ih => exact along_or hturn ih here names

/-! ## Links -/

/-- One more link that may be followed changes nothing, unless there were too few. -/
theorem walk_succ_or (f : Files) (links : Nat) (here : Route) (names : List Name) :
    (∃ e, walk f links here names = .error e ∧ e = .tooManyLinks) ∨
      walk f (links + 1) here names = walk f links here names := by
  induction links generalizing here names with
  | zero =>
    have hfollow (_ : Route) (_ : List Name) : ∃ e,
        (.error .tooManyLinks : Except IoError (Route × Entry)) = .error e ∧ e = .tooManyLinks :=
      ⟨_, rfl, rfl⟩
    exact along_or (fun _ _ => Or.inr rfl) (fun p names => Or.inl (hfollow p names)) here names
  | succ links ih => exact along_or (fun _ _ => Or.inr rfl) ih here names

/-- Nor do any number of them. -/
theorem walk_more {links more : Nat} (hle : links ≤ more)
    (h : walk f links here names ≠ .error .tooManyLinks) :
    walk f more here names = walk f links here names := by
  induction hle with
  | refl => rfl
  | step _ ih =>
    rcases walk_succ_or f _ here names with ⟨_, he, rfl⟩ | hsame
    · rw [ih] at he
      exact absurd he h
    · rw [hsame, ih]

/-- However many links are allowed, a walk that gets somewhere gets to the same. -/
theorem walk_eq_of_ok {links : Nat} (h : walk f links here names = .ok r) (limit : Nat)
    (hlimit : walk f limit here names ≠ .error .tooManyLinks) : walk f limit here names = .ok r := by
  have hlinks : walk f links here names ≠ .error .tooManyLinks := by
    rw [h]
    nofun
  rw [← walk_more (Nat.le_max_right links limit) hlimit, walk_more (Nat.le_max_left _ _) hlinks, h]

/-! ## Paths -/

/-- **What is seen is there.** -/
theorem leads_of_resolve {path : String} (h : f.resolve path = .ok r) : f.Leads path r := by
  obtain ⟨hnul, hne, -, hwalk⟩ := find_eq_ok_iff.1 h
  refine ⟨hnul, hne, linkLimit, ?_⟩
  rcases f.walk_cleared linkLimit (f.start path.utf8) (Path.components path.utf8) with
    ⟨e, he, -⟩ | hsame
  · rw [hwalk] at he
    cases he
  · rw [hsame, hwalk]

/-- **What is there is seen, or looking is hindered.** -/
theorem Leads.resolve_or {path : String} (h : f.Leads path r) :
    f.resolve path = .ok r ∨ f.Hindered path := by
  obtain ⟨hnul, hne, links, hwalk⟩ := h
  unfold Hindered resolve
  by_cases hlong : path.utf8.length ≤ pathLimit
  · have hfind : f.find path.utf8 =
        walk f linkLimit (f.start path.utf8) (Path.components path.utf8) := by
      unfold find
      simp [hnul, hne, Nat.not_lt.2 hlong]
    rw [hfind]
    rcases f.walk_cleared linkLimit (f.start path.utf8) (Path.components path.utf8) with
      hinders | hsame
    · exact Or.inr hinders
    by_cases hlinks : walk f linkLimit (f.start path.utf8) (Path.components path.utf8) =
        .error .tooManyLinks
    · exact Or.inr ⟨_, hlinks, trivial⟩
    · rw [← hsame] at hlinks ⊢
      exact Or.inl (walk_eq_of_ok hwalk linkLimit hlinks)
  · refine Or.inr ⟨.nameTooLong, ?_, trivial⟩
    unfold find
    simp [hnul, hne, Nat.lt_of_not_le hlong]

theorem contains_iff {path : String} : f.contains path = true ↔ ∃ r, f.resolve path = .ok r :=
  Outcome.isOk_iff

/-- **What is not seen**: nothing is there, or looking is hindered. -/
theorem contains_eq_false_iff {path : String} :
    f.contains path = false ↔ ¬f.Has path ∨ f.Has path ∧ f.Hindered path := by
  rw [← Bool.not_eq_true, contains_iff]
  constructor
  · intro h
    by_cases hhas : f.Has path
    · obtain ⟨r, hr⟩ := hhas
      exact Or.inr ⟨⟨r, hr⟩, hr.resolve_or.resolve_left fun hseen => h ⟨r, hseen⟩⟩
    · exact Or.inl hhas
  · rintro (h | ⟨-, e, he, -⟩) ⟨r, hr⟩
    · exact h ⟨r, leads_of_resolve hr⟩
    · rw [hr] at he
      cases he

/-- The same of directories. -/
theorem isDir_eq_false_iff {path : String} :
    f.isDir path = false ↔ ¬f.HasDir path ∨ f.HasDir path ∧ f.Hindered path := by
  rw [← Bool.not_eq_true]
  unfold isDir
  rw [leadsToDir_iff]
  constructor
  · intro h
    by_cases hhas : f.HasDir path
    · obtain ⟨p, hp⟩ := hhas
      exact Or.inr ⟨⟨p, hp⟩, hp.resolve_or.resolve_left fun hseen => h ⟨p, hseen⟩⟩
    · exact Or.inl hhas
  · rintro (h | ⟨-, e, he, -⟩) ⟨p, hp⟩
    · exact h ⟨p, leads_of_resolve hp⟩
    · exact absurd (hp.symm.trans he) nofun

/-- A directory of links, each of which leads to the next and the last to `target`. There is one
more of them than are followed. -/
def chain (target : String) : List (Route × Entry) :=
  (.of ["links"], .dir) :: (List.range (linkLimit + 1)).map fun i =>
    (Route.of ["links"] ++ [[UInt8.ofNat (48 + i)]],
      .link (if i = linkLimit then target.utf8 else [UInt8.ofNat (48 + (i + 1))]))

end Files

end Stratum
