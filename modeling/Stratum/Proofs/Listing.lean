import Stratum.Proofs.Configuration
import Stratum.Proofs.Enumeration
import Stratum.Proofs.Findings
import Stratum.Proofs.Sight

/-!
# All repositories of a machine

The configuration root may hold anything: directories, files, and links to either, to nothing or to
themselves. `Configured` says which of its names count, by what is there and where it is seen to
lead. Opening all repositories is opening what each of these names is read as, one after the other,
and it is all or nothing: one that cannot be opened is one too many, and so is a root that cannot be
read to its end. Names that are not text are read with marks in them, and different names may be
read alike.

> `all_eq_bind`: which names are opened, each of them once.
> `lists_exactly`: what the list is, when there is none, and what it is then that has failed.
> `not_listed_once`: two names that are read alike are opened twice.
-/

namespace Stratum

/-! ## One repository -/

namespace Local

variable {f : Files} {layout : Layout} {fqrn : String}

/-- Whatever is wrong with a repository, it is not that there is no configuration root. -/
theorem load_ne_notInstalled {root : String} :
    load f layout fqrn ≠ .error (.notInstalled root) := by
  intro h
  rw [load_eq] at h
  rcases Outcome.bind_eq_error_iff.1 h with h | ⟨setup, -, h⟩
  · obtain ⟨-, check, -, -, -, hfault⟩ := refused_of_configure h
    cases hfault with
    | lost _ hlost => cases hlost
  · have hdiscovers := (source f fqrn setup).discovers layout setup.kind setup.version
    generalize (source f fqrn setup).discover layout setup.kind setup.version = t at h hdiscovers
    rw [Outcome.map_eq_error_iff] at h
    cases hdiscovers with
    | found => cases h
    | stopped _ _ flaw =>
      cases h
      cases flaw with
      | unavailable hretrieve =>
        -- A directory fails as the operating system does, or it lacks the artifact.
        unfold source storage at hretrieve
        simp only at hretrieve
        split at hretrieve
        next =>
          obtain ⟨cause, -, hcause⟩ := Outcome.mapError_eq_error_iff.1 hretrieve
          cases hcause
        next => cases hretrieve

/-- The kind of an open repository is stratum 0 exactly if its configuration says so. -/
theorem kind_eq_stratum0_iff {r : Local} (h : load f layout fqrn = .ok r) :
    r.state.kind = .stratum0 ↔ (confOf layout fqrn).read f kindField = .ok "stratum0" := by
  obtain ⟨-, hread⟩ := declaredKind_eq_ok_iff.1 (declaredKind_of_load h)
  rw [hread]
  cases r.state.kind with
  | stratum0 => exact iff_of_true rfl rfl
  | stratum1 => exact iff_of_false nofun (by decide)
  | unknown => exact iff_of_false nofun (by decide)

end Local

namespace Installed

open Text

variable {f : Files} {layout : Layout} {rs : List Local}

/-! ## The names that count -/

/-- A name in the configuration root that is seen to lead to a directory, links followed. -/
structure Configured (f : Files) (layout : Layout) (n : Name) : Prop where
  entry : ∃ p, f.resolve layout.root = .ok (p, .dir) ∧ (f.lookup? (p ++ [n])).isSome = true
  isDir : f.leadsToDir (Path.under layout.root.utf8 n) = true

/-- What a name opens to: the repository of the text that it is read as. -/
def Opens (f : Files) (layout : Layout) (n : Name) (r : Local) : Prop :=
  Local.load f layout (readName n) = .ok r

theorem configured_iff {p : Route} (hp : f.resolve layout.root = .ok (p, .dir)) {n : Name} :
    Configured f layout n ↔ n ∈ (f.children p).filter (isCandidate f layout) := by
  rw [List.mem_filter, Files.mem_children_iff]
  constructor
  · rintro ⟨⟨q, hq, hentry⟩, hdir⟩
    rw [hp] at hq
    cases hq
    exact ⟨hentry, hdir⟩
  · rintro ⟨hentry, hdir⟩
    exact ⟨⟨p, hp, hentry⟩, hdir⟩

/-- **Opening all repositories** is opening the names that are read in the root, as far as they
count, and it is in vain where the reading breaks off. -/
theorem all_eq_bind (h : f.isDir layout.root = true) :
    all f layout = (f.listing layout.root).mapError Failure.io >>= fun listing =>
      (listing.names.filter (isCandidate f layout)).mapM (Local.load f layout ∘ readName) >>=
        fun rs => match listing.failure with
          | some e => .error (.io e)
          | none => .ok rs := if_pos h

/-- What is read of the root are names that it has, each of them once. -/
theorem exists_of_listing {l : Files.Listing} (h : f.listing layout.root = .ok l) :
    l.names.Nodup ∧ ∀ n ∈ l.names.filter (isCandidate f layout), Configured f layout n := by
  obtain ⟨p, hp, -, rfl⟩ := Files.listing_eq_ok_iff.1 h
  have hsub : (f.listingAt p).names.Sublist (f.children p) := by
    unfold Files.listingAt
    split
    next => exact List.take_sublist _ _
    next => exact List.Sublist.refl _
  refine ⟨(Files.nodup_children f p).sublist hsub, fun n hn => ?_⟩
  exact (configured_iff hp).2 ((hsub.filter _).subset hn)

/-! ## No list -/

/-- Without a configuration root there are no repositories, and only then nothing is installed. -/
theorem all_eq_notInstalled_iff {root : String} :
    all f layout = .error (.notInstalled root) ↔
      f.isDir layout.root = false ∧ root = layout.root := by
  cases hdir : f.isDir layout.root with
  | false =>
    rw [all_of_not_isDir hdir]
    simp [eq_comm]
  | true =>
    refine iff_of_false (fun h => ?_) nofun
    rw [all_eq_bind hdir] at h
    rcases Outcome.bind_eq_error_iff.1 h with h | ⟨l, -, h⟩
    · obtain ⟨_, -, h⟩ := Outcome.mapError_eq_error_iff.1 h
      cases h
    rcases Outcome.bind_eq_error_iff.1 h with h | ⟨rs, -, h⟩
    · obtain ⟨n, -, hn⟩ := Outcome.exists_mem_of_mapM_eq_error h
      exact Local.load_ne_notInstalled hn
    · split at h <;> cases h

/-- A failure is that of a name that counts, or of reading the root. -/
theorem exists_of_all_eq_error (h : f.isDir layout.root = true) {e : Failure}
    (hall : all f layout = .error e) :
    (∃ n, Configured f layout n ∧ Local.load f layout (readName n) = .error e) ∨
      ∃ d, f.names layout.root = .error d ∧ e = .io d := by
  rw [all_eq_bind h] at hall
  rcases Outcome.bind_eq_error_iff.1 hall with hall | ⟨l, hl, hall⟩
  · obtain ⟨d, hd, rfl⟩ := Outcome.mapError_eq_error_iff.1 hall
    refine Or.inr ⟨d, ?_, rfl⟩
    unfold Files.names
    rw [hd]
  have hlisting := Outcome.mapError_eq_ok_iff.1 hl
  rcases Outcome.bind_eq_error_iff.1 hall with hall | ⟨rs, -, hall⟩
  · obtain ⟨n, hn, he⟩ := Outcome.exists_mem_of_mapM_eq_error hall
    exact Or.inl ⟨n, (exists_of_listing hlisting).2 n hn, he⟩
  · obtain ⟨names, failure⟩ := l
    cases failure with
    | none => cases hall
    | some d =>
      cases hall
      refine Or.inr ⟨d, ?_, rfl⟩
      unfold Files.names
      rw [hlisting]

/-! ## The list -/

/-- **One repository for each name that counts**: what it opens to. -/
theorem opens_of_all (hall : all f layout = .ok rs) :
    ∃ ns : List Name, ns.Nodup ∧ (∀ n, n ∈ ns ↔ Configured f layout n) ∧
      List.Forall₂ (Opens f layout) ns rs := by
  obtain ⟨ns, hns, hload⟩ := all_eq_ok_iff.1 hall
  obtain ⟨p, hp, rfl⟩ := Files.eq_children_of_names hns
  refine ⟨_, (Files.nodup_children f p).filter _, fun n => (configured_iff hp).symm, ?_⟩
  exact Outcome.mapM_eq_ok_iff.1 hload

/-- There is a list exactly if the root can be read and every name that counts opens. -/
theorem exists_all_eq_ok_iff :
    (∃ rs, all f layout = .ok rs) ↔
      (∃ ns, f.names layout.root = .ok ns) ∧
      ∀ n, Configured f layout n → ∃ r, Opens f layout n r := by
  constructor
  · rintro ⟨rs, hall⟩
    obtain ⟨ns, hns, hload⟩ := all_eq_ok_iff.1 hall
    obtain ⟨p, hp, rfl⟩ := Files.eq_children_of_names hns
    refine ⟨⟨_, hns⟩, fun n hn => ?_⟩
    exact Outcome.exists_mapM_eq_ok_iff.1 ⟨rs, hload⟩ n ((configured_iff hp).1 hn)
  · rintro ⟨⟨ns, hns⟩, hopens⟩
    obtain ⟨p, hp, rfl⟩ := Files.eq_children_of_names hns
    obtain ⟨rs, hrs⟩ := Outcome.exists_mapM_eq_ok_iff.2 fun n hn =>
      hopens n ((configured_iff hp).2 hn)
    exact ⟨rs, all_eq_ok_iff.2 ⟨_, hns, hrs⟩⟩

/-- The repositories in a list have the names that count, as these are read. -/
theorem fqrns_of_opens {ns : List Name} (h : List.Forall₂ (Opens f layout) ns rs) :
    rs.map (·.state.fqrn) = ns.map readName := by
  induction h with
  | nil => rfl
  | cons hr _ ih => rw [List.map_cons, List.map_cons, ih, Local.fqrn_of_load hr]

/-- A repository in a list is what its own name opens to. -/
theorem load_of_mem_all (hall : all f layout = .ok rs) {r : Local} (hr : r ∈ rs) :
    Local.load f layout r.state.fqrn = .ok r := by
  obtain ⟨ns, -, hmem⟩ := mem_all_iff hall
  obtain ⟨n, -, -, hload⟩ := (hmem r).1 hr
  rw [Local.fqrn_of_load hload]
  exact hload

/-- All names that count are texts. -/
def Readable (f : Files) (layout : Layout) : Prop :=
  ∀ n, Configured f layout n → ∃ s : String, n = s.utf8

/-- Where all names are texts, the repositories in a list have these names, each of them once. -/
theorem fqrns_of_all (hreadable : Readable f layout) (hall : all f layout = .ok rs) :
    (rs.map (·.state.fqrn)).Nodup ∧
      ∀ s : String, s ∈ rs.map (·.state.fqrn) ↔ Configured f layout s.utf8 := by
  obtain ⟨ns, hnodup, hmem, hopens⟩ := opens_of_all hall
  have hread : ∀ n ∈ ns, (readName n).utf8 = n := by
    intro n hn
    obtain ⟨s, rfl⟩ := hreadable n ((hmem n).1 hn)
    rw [readName_utf8]
  rw [fqrns_of_opens hopens]
  constructor
  · refine hnodup.map_on fun m hm n hn hmn => ?_
    rw [← hread m hm, hmn, hread n hn]
  · intro s
    rw [← hmem, List.mem_map]
    constructor
    · rintro ⟨n, hn, rfl⟩
      rwa [hread n hn]
    · intro hs
      exact ⟨s.utf8, hs, readName_utf8 s⟩

/-- Whether the configuration under the name of a repository declares a stratum 0. -/
def declaresStratum0 (f : Files) (layout : Layout) (r : Local) : Bool :=
  decide ((Local.confOf layout r.state.fqrn).read f Local.kindField = .ok "stratum0")

theorem stratum0s_eq_error_iff {e : Failure} :
    stratum0s f layout = .error e ↔ all f layout = .error e := Outcome.map_eq_error_iff

/-- The stratum 0s are the part of the list whose configurations declare them to be that. -/
theorem stratum0s_of_all (hall : all f layout = .ok rs) :
    stratum0s f layout = .ok (rs.filter (declaresStratum0 f layout)) := by
  unfold stratum0s
  rw [hall]
  refine congrArg Except.ok (List.filter_congr fun r hr => ?_)
  rw [Bool.eq_iff_iff, beq_iff_eq, Local.kind_eq_stratum0_iff (load_of_mem_all hall hr)]
  exact decide_eq_true_iff.symm

/-- **The list is exact, and it is all or nothing.** Nothing is installed exactly if the
configuration root is seen to be no directory. If it is one, there is a list exactly if the root can
be read to its end and every name that counts opens, and a failure is that of one of these names or
of the reading. In the list is one repository for each of the names, which is what it opens to; if
all the names are texts, they are the names of the repositories, each of them once. The list of the
stratum 0s fails where that of all repositories does, and is the part of it that is declared to be
stratum 0. -/
theorem lists_exactly (f : Files) (layout : Layout) :
    (∀ root, all f layout = .error (.notInstalled root) ↔
      f.isDir layout.root = false ∧ root = layout.root) ∧
    ((∃ rs, all f layout = .ok rs) ↔
      (∃ ns, f.names layout.root = .ok ns) ∧
        ∀ n, Configured f layout n → ∃ r, Opens f layout n r) ∧
    (f.isDir layout.root = true → ∀ e, all f layout = .error e →
      (∃ n, Configured f layout n ∧ Local.load f layout (readName n) = .error e) ∨
        ∃ d, f.names layout.root = .error d ∧ e = .io d) ∧
    (∀ rs, all f layout = .ok rs →
      (∃ ns : List Name, ns.Nodup ∧ (∀ n, n ∈ ns ↔ Configured f layout n) ∧
        List.Forall₂ (Opens f layout) ns rs ∧ rs.map (·.state.fqrn) = ns.map readName) ∧
      (Readable f layout → (rs.map (·.state.fqrn)).Nodup ∧
        ∀ s : String, s ∈ rs.map (·.state.fqrn) ↔ Configured f layout s.utf8)) ∧
    (∀ e, stratum0s f layout = .error e ↔ all f layout = .error e) ∧
    ∀ rs, all f layout = .ok rs →
      stratum0s f layout = .ok (rs.filter (declaresStratum0 f layout)) := by
  refine ⟨fun root => all_eq_notInstalled_iff, exists_all_eq_ok_iff, ?_, ?_, ?_, ?_⟩
  · intro h e he
    exact exists_of_all_eq_error h he
  · intro rs hall
    obtain ⟨ns, hnodup, hmem, hopens⟩ := opens_of_all hall
    exact ⟨⟨ns, hnodup, hmem, hopens, fqrns_of_opens hopens⟩, fun h => fqrns_of_all h hall⟩
  · intro e
    exact stratum0s_eq_error_iff
  · intro rs hall
    exact stratum0s_of_all hall

/-- A configuration root with a directory, a link to one, a file, and links that lead nowhere. -/
def crowded : Files where
  entries := annexed.entries ++
    [(.of ["etc", "cvmfs", "repositories.d", "README"], .file []),
      (.of ["etc", "cvmfs", "repositories.d", "b.org"], .link "../elsewhere".utf8),
      (.of ["etc", "cvmfs", "repositories.d", "gone"], .link "nowhere".utf8),
      (.of ["etc", "cvmfs", "repositories.d", "loop"], .link "loop".utf8)]
  cwd := []
  nodup := by decide +kernel
  proper := by decide +kernel

/-- The directory counts, and the link to one. -/
theorem fqrns_crowded :
    (all crowded {}).map (·.map (·.state.fqrn)) = .ok ["a.org", "b.org"] := by
  decide +kernel

/-- A directory whose name is a byte that is no text, beside a directory with the name that it is
read as. -/
def misread : Files where
  entries :=
    [(.of ["etc"], .dir), (.of ["etc", "cvmfs"], .dir),
      (.of ["etc", "cvmfs", "repositories.d"], .dir),
      (Route.of ["etc", "cvmfs", "repositories.d"] ++ [[0xff]], .dir),
      (.of ["etc", "cvmfs", "repositories.d", "\uFFFD"], .dir),
      (.of ["etc", "cvmfs", "repositories.d", "\uFFFD", "server.conf"], .file annexedConf),
      (.of ["srv"], .dir), (.of ["srv", "a.org"], .dir),
      (.of ["srv", "a.org", ".cvmfspublished"], .file "Na.org\n--\n".utf8)]
  cwd := []
  nodup := by decide +kernel
  proper := by decide +kernel

/-- A machine with one installed repository, which may be opened, and a configuration root that may
be searched, but not read. -/
def unread : Files :=
  { annexed with
    obstacles.opening := fun p =>
      if p = .of ["etc", "cvmfs", "repositories.d"] then some .denied else none }

/-- A machine with one installed repository, and a link in the configuration root that leads to a
directory over more links than are followed. -/
def knotted : Files where
  entries := annexed.entries ++
    (.of ["etc", "cvmfs", "repositories.d", "b.org"], .link "/links/0".utf8) ::
      Files.chain "/etc/cvmfs/repositories.d"
  cwd := []
  nodup := by decide +kernel
  proper := by decide +kernel

/-- Of two names that are read alike, both are opened as the text that they are read as, and so a
repository is listed twice. A root that cannot be read is no list, though all that is in it opens.
And a link over too many links to a directory does not count, though it cannot be opened. -/
theorem not_listed_once :
    (all misread {}).map (·.map (·.state.fqrn)) = .ok ["\uFFFD", "\uFFFD"] ∧
    (unread.isDir ({} : Layout).root = true ∧
      unread.children (.of ["etc", "cvmfs", "repositories.d"]) = ["a.org".utf8] ∧
      (Local.load unread {} "a.org").isOk = true ∧
      (all unread {}).map (·.map (·.state.fqrn)) = .error (.io (.obstacle .denied))) ∧
    (knotted.isDir ({} : Layout).root = true ∧
      knotted.HasDir "/etc/cvmfs/repositories.d/b.org" ∧
      (Local.load knotted {} "b.org").isOk = false ∧
      (all knotted {}).map (·.map (·.state.fqrn)) = .ok ["a.org"]) := by
  have hlink : knotted.HasDir "/etc/cvmfs/repositories.d/b.org" := by
    refine ⟨.of ["etc", "cvmfs", "repositories.d"], ?_, ?_, 42, ?_⟩ <;> decide +kernel
  refine ⟨?_, ⟨?_, ?_, ?_, ?_⟩, ⟨?_, hlink, ?_, ?_⟩⟩ <;> decide +kernel

end Installed

end Stratum
