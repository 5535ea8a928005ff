import Stratum.Proofs.LocalOpening
import Stratum.Proofs.Walk

/-!
# Trees that differ in the contents of files

A path is looked up by names, directories and links, and never by what is in a file. So where one
tree comes from another by changing the contents of files, and nothing else, every path leads to
the same place in both, and reading it gives the changed content instead of the old one.

Opening a repository of this machine goes by paths and by what three readers make of contents. If
they make the same of the changed contents, nothing has changed for it.

> `Rewrites.find_eq`: the same path, the same place.
> `Rewrites.read_eq`: what is read there.
> `Local.load_of_rewrites`: the same repository, as far as contents read alike.
-/

namespace Stratum

open Text

/-- An entry with another content, if it is a file. -/
def Entry.rewrite (h : Bytes → Bytes) : Entry → Entry
  | .file content => .file (h content)
  | .dir => .dir
  | .link target => .link target

namespace Files

/-- The tree `g` is the tree `f` with other contents in its files: what `h` makes of the content at
each place. What is in the way of looking up names and opening files is the same. -/
structure Rewrites (h : Route → Bytes → Bytes) (f g : Files) : Prop where
  cwd : g.cwd = f.cwd
  lookup? : ∀ p, g.lookup? p = (f.lookup? p).map (Entry.rewrite (h p))
  search : g.obstacles.search = f.obstacles.search
  opening : g.obstacles.opening = f.obstacles.opening

/-- A tree with other contents in its files. -/
def rewrite (f : Files) (h : Route → Bytes → Bytes) : Files where
  entries := f.entries.map fun e => (e.1, e.2.rewrite (h e.1))
  cwd := f.cwd
  obstacles := f.obstacles
  nodup := by
    rw [List.map_map]
    exact f.nodup
  proper := by
    rw [List.map_map]
    exact f.proper

variable {h : Route → Bytes → Bytes} {f g : Files}

/-- A tree with other contents is a rewriting of it. -/
theorem rewrites_rewrite (f : Files) (h : Route → Bytes → Bytes) : Rewrites h f (f.rewrite h) := by
  refine ⟨rfl, fun p => ?_, rfl, rfl⟩
  unfold Files.lookup? rewrite
  by_cases hp : p.isEmpty = true
  · rw [if_pos hp, if_pos hp]
    rfl
  · rw [if_neg hp, if_neg hp]
    exact Keyed.lookup_map (fun p => Entry.rewrite (h p)) p f.entries

/-- Where one name leads, with the content that is there instead. -/
def Turn.rewrite (h : Route → Bytes → Bytes) : Turn → Turn
  | .enter p => .enter p
  | .reach p content => .reach p (h p content)
  | .follow p names => .follow p names

/-- Where a walk ends, with the content that is there instead. -/
def arrival (h : Route → Bytes → Bytes) (r : Route × Entry) : Route × Entry :=
  (r.1, r.2.rewrite (h r.1))

namespace Rewrites

/-- Only where a name leads to a file the content comes in. -/
theorem turn_eq (hfg : Rewrites h f g) (here : Route) (name : Name) :
    g.turn here name = (f.turn here name).map (Turn.rewrite h) := by
  unfold turn
  rw [hfg.search, hfg.lookup?]
  by_cases hempty : name.isEmpty = true
  · rw [if_pos hempty, if_pos hempty]
    rfl
  rw [if_neg hempty, if_neg hempty]
  cases f.obstacles.search here name with
  | some o => rfl
  | none =>
    by_cases hself : name = Path.self
    · simp only [if_pos hself]
      rfl
    by_cases hparent : name = Path.parent
    · simp only [if_neg hself, if_pos hparent]
      rfl
    by_cases hlong : nameLimit < name.length
    · simp only [if_neg hself, if_neg hparent, if_pos hlong]
      rfl
    simp only [if_neg hself, if_neg hparent, if_neg hlong]
    cases f.lookup? (here ++ [name]) with
    | none => rfl
    | some e => cases e <;> rfl

/-- Contents do not matter on the way along names. -/
theorem along_eq (hfg : Rewrites h f g)
    {follow follow' : Route → List Name → Except IoError (Route × Entry)}
    (hfollow : ∀ here names, follow' here names = (follow here names).map (arrival h))
    (here : Route) (names : List Name) :
    along g follow' here names = (along f follow here names).map (arrival h) := by
  induction names generalizing here with
  | nil => rfl
  | cons name rest ih =>
    unfold along
    rw [hfg.turn_eq]
    cases f.turn here name with
    | error e => rfl
    | ok t =>
      cases t with
      | enter p => exact ih p
      | follow p names => exact hfollow _ _
      | reach p content =>
        cases rest with
        | nil => rfl
        | cons name rest => rfl

/-- Nor do they matter over links. -/
theorem walk_eq (hfg : Rewrites h f g) (links : Nat) (here : Route) (names : List Name) :
    walk g links here names = (walk f links here names).map (arrival h) := by
  induction links generalizing here names with
  | zero =>
    rw [walk_zero, walk_zero]
    apply hfg.along_eq
    intro here names
    rfl
  | succ links ih =>
    rw [walk_succ, walk_succ]
    exact hfg.along_eq ih here names

/-- **Every path leads to the same place.** -/
theorem find_eq (hfg : Rewrites h f g) (path : Bytes) :
    g.find path = (f.find path).map (arrival h) := by
  have hstart : g.start path = f.start path := by
    unfold start
    rw [hfg.cwd]
  unfold find
  rw [hstart, hfg.walk_eq]
  by_cases hnul : path.contains 0 = true
  · rw [if_pos hnul, if_pos hnul]
    rfl
  rw [if_neg hnul, if_neg hnul]
  by_cases hempty : path.isEmpty = true
  · rw [if_pos hempty, if_pos hempty]
    rfl
  rw [if_neg hempty, if_neg hempty]
  by_cases hlong : pathLimit < path.length
  · rw [if_pos hlong, if_pos hlong]
    rfl
  · rw [if_neg hlong, if_neg hlong]

theorem contains_eq (hfg : Rewrites h f g) (path : String) : g.contains path = f.contains path := by
  unfold contains resolve
  rw [hfg.find_eq]
  cases f.find path.utf8 <;> rfl

/-- The same paths lead to directories. -/
theorem leadsToDir_eq (hfg : Rewrites h f g) (path : Bytes) :
    g.leadsToDir path = f.leadsToDir path := by
  unfold leadsToDir
  rw [hfg.find_eq]
  cases f.find path with
  | error e => rfl
  | ok r =>
    obtain ⟨p, e⟩ := r
    cases e <;> rfl

/-- Reading fails in both trees in the same way, or it gives a content and what is made of it. -/
theorem read_cases (hfg : Rewrites h f g) (path : String) :
    (∃ d, f.read path = .error d ∧ g.read path = .error d) ∨
      ∃ p content, f.resolve path = .ok (p, .file content) ∧ f.read path = .ok content ∧
        g.read path = .ok (h p content) := by
  unfold read resolve
  rw [hfg.find_eq, hfg.opening]
  cases f.find path.utf8 with
  | error d => exact Or.inl ⟨d, rfl, rfl⟩
  | ok r =>
    obtain ⟨p, e⟩ := r
    simp only [Except.map, arrival]
    cases f.obstacles.opening p with
    | some o => exact Or.inl ⟨.obstacle o, rfl, rfl⟩
    | none =>
      cases e with
      | file content => exact Or.inr ⟨p, content, rfl, rfl, rfl⟩
      | dir => exact Or.inl ⟨_, rfl, rfl⟩
      | link target => exact Or.inl ⟨_, rfl, rfl⟩

/-- **What is read at a path** is what is made of the content at the place that it leads to. -/
theorem read_eq (hfg : Rewrites h f g) {path : String} {p : Route} {e : Entry}
    (hpath : f.resolve path = .ok (p, e)) : g.read path = (f.read path).map (h p) := by
  rcases hfg.read_cases path with ⟨d, hf, hg⟩ | ⟨q, content, hq, hf, hg⟩
  · rw [hf, hg]
    rfl
  · rw [hpath] at hq
    cases hq
    rw [hf, hg]
    rfl

end Rewrites

end Files

/-! ## The readers -/

/-- The fields of a server configuration that are looked up. -/
def Local.fields : List String := [Local.kindField, Local.storageField, Local.versionField]

/-- Changed contents that read like those before, whoever reads them: as a server configuration,
as a manifest, as a marker. -/
structure ReadAlike (h : Route → Bytes → Bytes) : Prop where
  field : ∀ (conf : ServerConf), ∀ field ∈ Local.fields, ∀ p content,
    conf.ofContent field (h p content) = conf.ofContent field content
  manifest : ∀ p content, Manifest.ofBytes (h p content) = Manifest.ofBytes content
  marker : ∀ p content, Source.readMarker (h p content) = Source.readMarker content

namespace Files.Rewrites

variable {h : Route → Bytes → Bytes} {f g : Files}

/-- A field is the same if it is the same in every content. -/
theorem field_eq (hfg : Rewrites h f g) {conf : ServerConf} {field : String}
    (hfield : ∀ p content, conf.ofContent field (h p content) = conf.ofContent field content) :
    conf.read g field = conf.read f field := by
  unfold ServerConf.read
  rcases hfg.read_cases conf.path with ⟨d, hf, hg⟩ | ⟨p, content, -, hf, hg⟩
  · rw [hf, hg]
  · rw [hf, hg]
    exact hfield p content

/-- What is made of an artifact is the same if the same is made of every content. -/
theorem content?_bind_eq (hfg : Rewrites h f g) {α : Type}
    {reader : Option Bytes → Except Failure α}
    (hreader : ∀ p content, reader (some (h p content)) = reader (some content))
    (fqrn root name : String) :
    (Local.storage g fqrn root).content? name >>= reader =
      (Local.storage f fqrn root).content? name >>= reader := by
  rw [Local.content?_storage, Local.content?_storage, hfg.contains_eq]
  by_cases hthere : f.contains (Path.join root name) = true
  · rw [if_pos hthere, if_pos hthere]
    rcases hfg.read_cases (Path.join root name) with ⟨d, hf, hg⟩ | ⟨p, content, -, hf, hg⟩
    · rw [hf, hg]
    · rw [hf, hg]
      exact hreader p content
  · rw [if_neg hthere, if_neg hthere]

end Files.Rewrites

/-! ## Opening -/

namespace Local

variable {h : Route → Bytes → Bytes} {f g : Files}

/-- So the same configurations are accepted. -/
theorem configure_of_rewrites (hfg : Files.Rewrites h f g) (hh : ReadAlike h) (layout : Layout)
    (fqrn : String) : configure g layout fqrn = configure f layout fqrn := by
  have hfield : ∀ field ∈ fields, (confOf layout fqrn).read g field =
      (confOf layout fqrn).read f field := fun field hf => hfg.field_eq (hh.field _ field hf)
  have hkind : declaredKind g (confOf layout fqrn) = declaredKind f (confOf layout fqrn) := by
    unfold declaredKind
    rw [hfield kindField (by simp [fields])]
  have hstorage : declaredStorage g (confOf layout fqrn) =
      declaredStorage f (confOf layout fqrn) := by
    unfold declaredStorage
    rw [hfield storageField (by simp [fields])]
  have hversion : (confOf layout fqrn).readOptional g versionField =
      (confOf layout fqrn).readOptional f versionField := by
    unfold ServerConf.readOptional
    rw [hfield versionField (by simp [fields])]
  cases hdir : f.isDir (layout.confDir fqrn) with
  | false =>
    have hdir' : g.isDir (layout.confDir fqrn) = false := (hfg.leadsToDir_eq _).trans hdir
    rw [configure_of_not_isDir hdir, configure_of_not_isDir hdir']
  | true =>
    have hdir' : g.isDir (layout.confDir fqrn) = true := (hfg.leadsToDir_eq _).trans hdir
    rw [configure_of_isDir hdir, configure_of_isDir hdir', hkind, hstorage, hversion]

/-- And the same states are discovered. -/
theorem discover_of_rewrites (hfg : Files.Rewrites h f g) (hh : ReadAlike h) (layout : Layout)
    (fqrn root : String) (declared : Kind) (version : String) :
    ((storage g fqrn root).discover layout declared version).outcome =
      ((storage f fqrn root).discover layout declared version).outcome := by
  have hmanifest : ∀ name, ((storage g fqrn root).manifest name).outcome =
      ((storage f fqrn root).manifest name).outcome := by
    intro name
    rw [Source.outcome_manifest, Source.outcome_manifest]
    apply hfg.content?_bind_eq
    intro p content
    show (Manifest.ofBytes (h p content)).mapError _ = (Manifest.ofBytes content).mapError _
    rw [hh.manifest]
  have hmarker : ∀ name, ((storage g fqrn root).marker? name).outcome =
      ((storage f fqrn root).marker? name).outcome := by
    intro name
    rw [Source.outcome_marker?, Source.outcome_marker?]
    apply hfg.content?_bind_eq
    intro p content
    show (Source.readMarker (h p content)).map some = (Source.readMarker content).map some
    rw [hh.marker]
  unfold Source.discover
  simp only [Trail.outcome_bind, hmanifest, hmarker]

/-- **Contents that read alike open to the same repository**, or fail in the same way. -/
theorem load_of_rewrites (hfg : Files.Rewrites h f g) (hh : ReadAlike h) (layout : Layout)
    (fqrn : String) : load g layout fqrn = load f layout fqrn := by
  unfold load source
  rw [configure_of_rewrites hfg hh]
  simp only [discover_of_rewrites hfg hh]

end Local

end Stratum
