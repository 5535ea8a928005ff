import Stratum.Proofs.Decoding
import Stratum.Proofs.LocalOpening
import Stratum.Proofs.Walk
import Stratum.Repository.Installed

/-!
# Names and the list of repositories

A repository is opened by a name, and all of them are listed by reading the names of the
configuration root. For proper names the two agree. Opening takes every text, though, and the text
is only joined to the root, so that one which is no name can climb out of the root, start anew at
another place, or reach a listed repository under a second spelling.

> `all_eq_ok_iff`: a list takes all names of the root, and opens what they are read as.
> `listed_iff_isName`: a text that opens a repository is listed exactly if it is a proper name.
-/

namespace Stratum.Installed

open Text

variable {f : Files} {layout : Layout} {rs : List Local}

/-! ## Names that are read as texts -/

/-- A name that is text is read as this text. -/
theorem readName_utf8 (s : String) : readName s.utf8 = s := by
  unfold readName String.utf8
  rw [Utf8.decodeLossy_of_decode? (Utf8.decode?_encode s.toList), String.ofList_toList]

/-- Where a name is read as a text of ASCII, the text has lost nothing. -/
theorem eq_of_utf8_readName {n : Name} {t : List Char} (ht : ∀ c ∈ t, 0 < c.toNat ∧ c.toNat < 128)
    (h : (readName n).utf8 = Utf8.encode t) : n = t.map fun c => UInt8.ofNat c.toNat := by
  unfold readName String.utf8 at h
  rw [String.toList_ofList] at h
  apply Utf8.eq_of_decodeLossy_eq ht
  have hdecode := Utf8.decode?_encode (Utf8.decodeLossy n)
  rw [h, Utf8.decode?_encode] at hdecode
  exact (Option.some.inj hdecode).symm

/-- What a proper name is read as is a proper name, too. -/
theorem isName_readName {n : Name} (h : Path.isName n = true)
    (hnul : (0 : UInt8) ∉ (readName n).utf8) : Path.isName (readName n).utf8 = true := by
  obtain ⟨hne, hself, hparent, hslash, -⟩ := Path.isName_iff.1 h
  refine Path.isName_iff.2 ⟨fun he => hne ?_, fun he => hself ?_, fun he => hparent ?_, ?_, hnul⟩
  · exact eq_of_utf8_readName (t := []) (by simp) he
  · exact eq_of_utf8_readName (t := ['.']) (by simp) he
  · exact eq_of_utf8_readName (t := ['.', '.']) (by simp) he
  · intro hmem
    unfold readName String.utf8 at hmem
    rw [String.toList_ofList] at hmem
    exact hslash (Utf8.mem_of_mem_decodeLossy (c := '/') (by decide)
      (Utf8.mem_of_mem_encode (b := Path.slash) (by decide) hmem))

/-! ## The list -/

/-- **A list takes all names of the root** that lead to directories, and opens what they are read
as. -/
theorem all_eq_ok_iff :
    all f layout = .ok rs ↔ ∃ ns, f.names layout.root = .ok ns ∧
      (ns.filter (isCandidate f layout)).mapM (Local.load f layout ∘ readName) = .ok rs := by
  unfold all
  constructor
  · intro hall
    split at hall
    next =>
      obtain ⟨⟨ns, failure⟩, hlisting, hall⟩ := Outcome.bind_eq_ok_iff.1 hall
      obtain ⟨rs', hload, hall⟩ := Outcome.bind_eq_ok_iff.1 hall
      cases failure with
      | some e => cases hall
      | none =>
        cases hall
        exact ⟨ns, Files.names_eq_iff_listing.2 (Outcome.mapError_eq_ok_iff.1 hlisting), hload⟩
    next => cases hall
  · rintro ⟨ns, hns, hload⟩
    obtain ⟨p, hp, -⟩ := Files.eq_children_of_names hns
    have hdir : f.isDir layout.root = true := Files.leadsToDir_iff.2 ⟨p, hp⟩
    rw [if_pos hdir, Files.names_eq_iff_listing.1 hns]
    exact Outcome.bind_eq_ok_iff.2 ⟨⟨ns, none⟩, rfl, Outcome.bind_eq_ok_iff.2 ⟨rs, hload, rfl⟩⟩

/-- A list of all repositories has for its members those that the directories below the root open
to. -/
theorem mem_all_iff (hall : all f layout = .ok rs) :
    ∃ ns, f.names layout.root = .ok ns ∧
      ∀ r, r ∈ rs ↔
        ∃ n ∈ ns, isCandidate f layout n = true ∧ Local.load f layout (readName n) = .ok r := by
  obtain ⟨ns, hns, hload⟩ := all_eq_ok_iff.1 hall
  refine ⟨ns, hns, fun r => ?_⟩
  rw [Outcome.mem_mapM_iff hload]
  simp only [List.mem_filter, and_assoc, Function.comp_apply]

/-- What a text opens is looked for below the root. -/
theorem find_of_load {name : String} {r : Local} (hload : Local.load f layout name = .ok r) :
    ∃ p, f.find (Path.under layout.root.utf8 name.utf8) = .ok (p, .dir) := by
  have hdir : f.isDir (Path.join layout.root name) = true := Local.isDir_of_load hload
  unfold Files.isDir at hdir
  rw [Path.utf8_join] at hdir
  exact Files.leadsToDir_iff.1 hdir

/-- A proper name that opens a repository is that of a directory below the root. -/
theorem mem_names_of_load {ns : List Name} (hns : f.names layout.root = .ok ns) {name : String}
    (hname : Path.isName name.utf8 = true) {r : Local} (hload : Local.load f layout name = .ok r) :
    name.utf8 ∈ ns ∧ isCandidate f layout name.utf8 = true := by
  obtain ⟨p, hp⟩ := find_of_load hload
  exact ⟨Files.mem_names_of_find hns hname hp, Files.leadsToDir_iff.2 ⟨p, hp⟩⟩

/-- A text that opens a repository is a proper name if it is what one is read as. -/
theorem isName_of_load {n : Name} (h : Path.isName n = true) {r : Local}
    (hload : Local.load f layout (readName n) = .ok r) :
    Path.isName (readName n).utf8 = true := by
  obtain ⟨p, hp⟩ := find_of_load hload
  refine isName_readName h fun hnul => (Files.find_eq_ok_iff.1 hp).1 ?_
  exact Path.mem_under hnul

/-! ## Opening by a name -/

/-- **A text that opens a repository is listed exactly if it is a proper name.** Where all
repositories can be listed, the proper names among the texts that open one are those of the
directories below the root, and what they open is in the list; any other text opens something
under a name that no listed repository has. -/
theorem listed_iff_isName (hall : all f layout = .ok rs) {name : String} {r : Local}
    (hload : Local.load f layout name = .ok r) :
    ((∃ ns, f.names layout.root = .ok ns ∧ name.utf8 ∈ ns ∧
        isCandidate f layout name.utf8 = true) ↔ Path.isName name.utf8 = true) ∧
    ((∃ r' ∈ rs, r'.state.fqrn = name) ↔ Path.isName name.utf8 = true) ∧
    (r ∈ rs ↔ Path.isName name.utf8 = true) := by
  obtain ⟨ns, hns, hmem⟩ := mem_all_iff hall
  have hproper : ∀ n ∈ ns, Path.isName n = true := by
    obtain ⟨p, -, rfl⟩ := Files.eq_children_of_names hns
    exact fun n => Files.isName_of_mem_children
  have hlisted : Path.isName name.utf8 = true → r ∈ rs := by
    intro hname
    obtain ⟨hin, hcand⟩ := mem_names_of_load hns hname hload
    exact (hmem r).2 ⟨name.utf8, hin, hcand, (readName_utf8 name).symm ▸ hload⟩
  -- Whatever is listed under this name was opened by it, and it is what a name of the root is
  -- read as.
  have hname_of_mem : ∀ r' ∈ rs, r'.state.fqrn = name → Path.isName name.utf8 = true := by
    intro r' hr' hfqrn
    obtain ⟨n, hn, -, hloadn⟩ := (hmem r').1 hr'
    rw [Local.fqrn_of_load hloadn] at hfqrn
    rw [← hfqrn]
    exact isName_of_load (hproper n hn) hloadn
  refine ⟨⟨?_, ?_⟩, ⟨?_, ?_⟩, ?_, hlisted⟩
  · rintro ⟨ns', hns', hin, -⟩
    rw [hns] at hns'
    cases hns'
    exact hproper _ hin
  · intro hname
    obtain ⟨hin, hcand⟩ := mem_names_of_load hns hname hload
    exact ⟨ns, hns, hin, hcand⟩
  · rintro ⟨r', hr', hfqrn⟩
    exact hname_of_mem r' hr' hfqrn
  · intro hname
    exact ⟨r, hlisted hname, Local.fqrn_of_load hload⟩
  · intro hr
    exact hname_of_mem r hr (Local.fqrn_of_load hload)

/-- What configures a stratum 0 whose artifacts are below `/srv`. -/
def annexedConf : Text.Bytes :=
  "CVMFS_REPOSITORY_TYPE=stratum0\nCVMFS_UPSTREAM_STORAGE=local,/tmp,/srv/a.org\n".utf8

/-- A machine with one installed repository, and a second configuration beside the root. -/
def annexed : Files where
  entries :=
    [(.of ["etc"], .dir), (.of ["etc", "cvmfs"], .dir),
      (.of ["etc", "cvmfs", "repositories.d"], .dir),
      (.of ["etc", "cvmfs", "repositories.d", "a.org"], .dir),
      (.of ["etc", "cvmfs", "repositories.d", "a.org", "server.conf"], .file annexedConf),
      (.of ["etc", "cvmfs", "elsewhere"], .dir),
      (.of ["etc", "cvmfs", "elsewhere", "server.conf"], .file annexedConf),
      (.of ["srv"], .dir), (.of ["srv", "a.org"], .dir),
      (.of ["srv", "a.org", ".cvmfspublished"], .file "Na.org\n--\n".utf8)]
  cwd := []
  nodup := by decide +kernel
  proper := by decide +kernel

/-- The installed repository is opened by its name, and listed. -/
theorem listed_annexed :
    ∃ rs r, all annexed {} = .ok rs ∧ Local.load annexed {} "a.org" = .ok r ∧
      r.state.fqrn = "a.org" ∧ r ∈ rs := by
  have hall : (all annexed {}).isOk = true := by decide +kernel
  have hload : (Local.load annexed {} "a.org").isOk = true := by decide +kernel
  obtain ⟨rs, hrs⟩ := Outcome.isOk_iff.1 hall
  obtain ⟨r, hr⟩ := Outcome.isOk_iff.1 hload
  obtain ⟨-, -, hmem⟩ := listed_iff_isName hrs hr
  exact ⟨rs, r, hrs, hr, Local.fqrn_of_load hr, hmem.2 (by decide +kernel)⟩

/-- Three texts that open a repository under a name that is not listed: two lead out of the
configuration root, one is a second spelling. -/
theorem not_listed_annexed :
    (all annexed {}).map (·.map (·.state.fqrn)) = .ok ["a.org"] ∧
    ∀ name ∈ ["../elsewhere", "/etc/cvmfs/elsewhere", "a.org/"],
      (Local.load annexed {} name).map (·.state.fqrn) = .ok name ∧ name ∉ ["a.org"] := by
  decide +kernel

end Stratum.Installed
