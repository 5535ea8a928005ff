import Stratum.Proofs.ByteOrder
import Stratum.Proofs.Contents
import Stratum.Proofs.Listing
import Stratum.Proofs.Output
import Stratum.Proofs.Replica
import Mathlib.Data.List.Perm.Basic
import Mathlib.Data.List.Sort

/-!
# The order in which directories are read

An operating system gives the names in a directory in whatever order it likes. In a file tree this
is the order of its entries, and `Reordered` says that two trees differ in nothing else. All paths
lead to the same in both. A list of repositories is made by going through a directory, so it comes
in another order; but it is sorted before it is shown, and repositories of the same name, which
there are where names are no texts, are the same.

> `sorted_of_perm`: sorting hides the order, also among repositories of one name.
> `list_of_reordered`: the list that is shown does not tell the order of reading.
-/

namespace Stratum

open Text

/-! ## Two trees -/

namespace Files

/-- Two trees with the same entries in two orders, and the same in the way. Where reading a
directory breaks off, it may do so behind other names. -/
structure Reordered (f g : Files) : Prop where
  cwd : g.cwd = f.cwd
  entries : f.entries.Perm g.entries
  search : g.obstacles.search = f.obstacles.search
  opening : g.obstacles.opening = f.obstacles.opening
  reading : ∀ p, (g.obstacles.reading p).isSome = (f.obstacles.reading p).isSome

/-- A tree with its entries in the opposite order. -/
def reversed (f : Files) : Files where
  entries := f.entries.reverse
  cwd := f.cwd
  obstacles := f.obstacles
  nodup := by
    rw [List.map_reverse, List.nodup_reverse]
    exact f.nodup
  proper := by
    intro p hp
    rw [List.map_reverse, List.mem_reverse] at hp
    exact f.proper p hp

/-- A tree read from the end is the same tree in another order. -/
theorem reordered_reversed (f : Files) : f.Reordered f.reversed :=
  ⟨rfl, (List.reverse_perm _).symm, rfl, rfl, fun _ => rfl⟩

namespace Reordered

variable {f g : Files}

theorem symm (h : f.Reordered g) : g.Reordered f :=
  ⟨h.cwd.symm, h.entries.symm, h.search.symm, h.opening.symm, fun p => (h.reading p).symm⟩

/-- The order does not matter for what is at a place. -/
theorem lookup?_eq (h : f.Reordered g) (p : Route) : g.lookup? p = f.lookup? p := by
  unfold lookup?
  rw [Keyed.lookup_of_perm h.entries f.nodup]

/-- Other contents that are the same ones. -/
theorem rewrites (h : f.Reordered g) : Rewrites (fun _ => id) f g := by
  refine ⟨h.cwd, fun p => ?_, h.search, h.opening⟩
  rw [h.lookup?_eq]
  cases f.lookup? p with
  | none => rfl
  | some e => cases e <;> rfl

/-- Nor does it matter for where a path leads. -/
theorem resolve_eq (h : f.Reordered g) (path : String) : g.resolve path = f.resolve path := by
  unfold resolve
  rw [h.rewrites.find_eq]
  cases f.find path.utf8 with
  | error d => rfl
  | ok r =>
    obtain ⟨p, e⟩ := r
    cases e <;> rfl

/-- Nor for what is read there. -/
theorem read_eq (h : f.Reordered g) (path : String) : g.read path = f.read path := by
  unfold read
  rw [h.resolve_eq, h.opening]

/-- The names of a directory can be read in one order if they can in the other. -/
theorem exists_names (h : f.Reordered g) {path : String} (hf : ∃ ns, f.names path = .ok ns) :
    ∃ ns, g.names path = .ok ns := by
  obtain ⟨ns, hns⟩ := hf
  obtain ⟨p, hp, hopening, hreading, -⟩ := names_eq_ok_iff.1 hns
  refine ⟨_, names_eq_ok_iff.2 ⟨p, ?_, ?_, ?_, rfl⟩⟩
  · rw [h.resolve_eq, hp]
  · rw [h.opening, hopening]
  · rw [← Option.not_isSome_iff_eq_none, h.reading, hreading]
    exact Bool.false_ne_true

/-- So each repository is opened alike. -/
theorem load_eq (h : f.Reordered g) (layout : Layout) (fqrn : String) :
    Local.load g layout fqrn = Local.load f layout fqrn := by
  apply Local.load_of_rewrites h.rewrites
  constructor
  · intro conf field _ p content
    rfl
  · intro p content
    rfl
  · intro p content
    rfl

/-- The configuration of the program is the same, too. -/
theorem layout_eq (h : f.Reordered g) (file? : Option String) :
    Layout.load g file? = Layout.load f file? := by
  cases file? with
  | none => rfl
  | some path =>
    unfold Layout.load
    simp only [h.read_eq]

end Reordered

end Files

/-! ## What is to be listed -/

namespace Installed

variable {f g : Files} {layout : Layout} {stratum0 : Bool} {ns : List Name} {rs ss : List Local}

/-- All repositories, or only those that are stratum 0s. -/
def selection (f : Files) (layout : Layout) (stratum0 : Bool) : Except Failure (List Local) :=
  if stratum0 then stratum0s f layout else all f layout

theorem selection_false (f : Files) (layout : Layout) : selection f layout false = all f layout :=
  rfl

theorem selection_true (f : Files) (layout : Layout) :
    selection f layout true = stratum0s f layout := rfl

/-- A name that is to be listed: it counts, and if only stratum 0s are asked for, the configuration
of what it is read as declares one. -/
structure Chosen (f : Files) (layout : Layout) (stratum0 : Bool) (n : Name) : Prop where
  configured : Configured f layout n
  declared : stratum0 = true →
    (Local.confOf layout (readName n)).read f Local.kindField = .ok "stratum0"

/-- A selection is that of a list. -/
theorem exists_all_of_selection (h : selection f layout stratum0 = .ok rs) :
    ∃ all', all f layout = .ok all' ∧
      rs = if stratum0 then all'.filter (declaresStratum0 f layout) else all' := by
  cases stratum0 with
  | false => exact ⟨rs, h, rfl⟩
  | true =>
    obtain ⟨all', hall, -⟩ := Outcome.map_eq_ok_iff.1 h
    rw [selection_true, stratum0s_of_all hall] at h
    exact ⟨all', hall, (Except.ok.inj h).symm⟩

/-- A list is made exactly if the root can be listed and all that is in it opened. -/
theorem exists_selection_iff :
    (∃ rs, selection f layout stratum0 = .ok rs) ↔
      (∃ ns, f.names layout.root = .ok ns) ∧
        ∀ n, Configured f layout n → ∃ r, Opens f layout n r := by
  rw [← exists_all_eq_ok_iff]
  constructor
  · rintro ⟨rs, h⟩
    obtain ⟨all', hall, -⟩ := exists_all_of_selection h
    exact ⟨all', hall⟩
  · rintro ⟨rs, hall⟩
    cases stratum0 with
    | false => exact ⟨rs, hall⟩
    | true => exact ⟨_, stratum0s_of_all hall⟩

/-- A repository in a selection is what its own name opens to. -/
theorem load_of_mem_selection (h : selection f layout stratum0 = .ok rs) {r : Local}
    (hr : r ∈ rs) : Local.load f layout r.state.fqrn = .ok r := by
  obtain ⟨all', hall, hrs⟩ := exists_all_of_selection h
  refine load_of_mem_all hall ?_
  rw [hrs] at hr
  split at hr
  next => exact (List.mem_filter.1 hr).1
  next => exact hr

/-- **What is to be listed**: one repository for each name, which is what it opens to. -/
theorem opens_of_selection (h : selection f layout stratum0 = .ok rs) :
    ∃ ns : List Name, ns.Nodup ∧ (∀ n, n ∈ ns ↔ Chosen f layout stratum0 n) ∧
      List.Forall₂ (Opens f layout) ns rs := by
  obtain ⟨all', hall, hrs⟩ := exists_all_of_selection h
  obtain ⟨ns, hnodup, hmem, hopens⟩ := opens_of_all hall
  cases stratum0 with
  | false =>
    rw [hrs]
    refine ⟨ns, hnodup, fun n => ?_, hopens⟩
    rw [hmem]
    exact ⟨fun hn => ⟨hn, nofun⟩, fun hn => hn.configured⟩
  | true =>
    -- A name declares what the repository does that it opens to.
    let declares (n : Name) : Bool :=
      decide ((Local.confOf layout (readName n)).read f Local.kindField = .ok "stratum0")
    have hsame {n : Name} {r : Local} (hr : Opens f layout n r) :
        declares n = declaresStratum0 f layout r := by
      unfold declaresStratum0
      rw [Local.fqrn_of_load hr]
    refine ⟨ns.filter declares, hnodup.filter _, fun n => ?_, ?_⟩
    · rw [List.mem_filter, hmem, decide_eq_true_iff]
      exact ⟨fun hn => ⟨hn.1, fun _ => hn.2⟩, fun hn => ⟨hn.configured, hn.declared rfl⟩⟩
    · rw [hrs]
      refine List.rel_filter (fun n r hr => ?_) hopens
      exact Bool.eq_iff_iff.1 (hsame hr)

/-! ## Sorting -/

theorem mem_sorted {r : Local} : r ∈ sorted rs ↔ r ∈ rs := List.mem_mergeSort

theorem sorted_perm (rs : List Local) : (sorted rs).Perm rs := List.mergeSort_perm rs _

/-- Sorted, repositories stand in ascending order of their names. -/
theorem pairwise_sorted (rs : List Local) :
    (sorted rs).Pairwise fun r s => r.state.fqrn ≤ s.state.fqrn := by
  have hle : (sorted rs).Pairwise fun r s => decide (r.state.fqrn ≤ s.state.fqrn) = true := by
    apply List.pairwise_mergeSort
    · intro r s t hrs hst
      rw [decide_eq_true_iff] at hrs hst ⊢
      exact String.le_trans hrs hst
    · intro r s
      rw [Bool.or_eq_true, decide_eq_true_iff, decide_eq_true_iff]
      exact String.le_total _ _
  exact hle.imp fun h => decide_eq_true_iff.1 h

/-- **Sorting hides an order.** Equal names could keep it, but a name opens to one repository. -/
theorem sorted_of_perm (hperm : ss.Perm rs)
    (hload : ∀ r ∈ rs, Local.load f layout r.state.fqrn = .ok r) : sorted ss = sorted rs := by
  refine List.Perm.eq_of_pairwise ?_ (pairwise_sorted ss) (pairwise_sorted rs)
    ((sorted_perm ss).trans (hperm.trans (sorted_perm rs).symm))
  intro s r hs hr hle hge
  have hsload := hload s (hperm.subset (mem_sorted.1 hs))
  rw [String.le_antisymm hle hge, hload r (mem_sorted.1 hr)] at hsload
  exact (Except.ok.inj hsload).symm

/-- The order of texts is that of their bytes. -/
theorem utf8_le {s t : String} (h : s ≤ t) : s.utf8 ≤ t.utf8 := by
  rcases eq_or_lt_of_le h with rfl | hlt
  · exact List.le_refl _
  · exact List.lt_asymm (Utf8.utf8_lt hlt)

/-! ## The same list -/

section Reordered

variable (hfg : f.Reordered g)
include hfg

theorem Configured.of_reordered {n : Name} (h : Configured f layout n) :
    Configured g layout n := by
  obtain ⟨⟨p, hp, hentry⟩, hdir⟩ := h
  rw [← hfg.resolve_eq] at hp
  rw [← hfg.lookup?_eq] at hentry
  rw [← hfg.rewrites.leadsToDir_eq] at hdir
  exact ⟨⟨p, hp, hentry⟩, hdir⟩

theorem Chosen.of_reordered {n : Name} (h : Chosen f layout stratum0 n) :
    Chosen g layout stratum0 n := by
  refine ⟨h.configured.of_reordered hfg, fun hzero => ?_⟩
  have hdeclared := h.declared hzero
  unfold ServerConf.read at hdeclared ⊢
  rw [hfg.read_eq]
  exact hdeclared

/-- The same names open, and to the same repositories. -/
theorem opens_eq : Opens g layout = Opens f layout := by
  funext n r
  unfold Opens
  rw [hfg.load_eq]

/-- Where the repositories can be opened in one order, they can in the other. -/
theorem exists_selection_of_reordered (h : ∃ rs, selection f layout stratum0 = .ok rs) :
    ∃ rs, selection g layout stratum0 = .ok rs := by
  rw [exists_selection_iff] at h ⊢
  refine ⟨hfg.exists_names h.1, fun n hn => ?_⟩
  rw [opens_eq hfg]
  exact h.2 n (hn.of_reordered hfg.symm)

/-- The two lists have the same members, and as often. -/
theorem perm_of_reordered (hf : selection f layout stratum0 = .ok rs)
    (hg : selection g layout stratum0 = .ok ss) : ss.Perm rs := by
  obtain ⟨ns, hnodup, hmem, hopens⟩ := opens_of_selection hf
  obtain ⟨ms, hnodup', hmem', hopens'⟩ := opens_of_selection hg
  have hperm : ms.Perm ns := by
    rw [List.perm_ext_iff_of_nodup hnodup' hnodup]
    intro n
    rw [hmem, hmem']
    exact ⟨fun hn => hn.of_reordered hfg.symm, fun hn => hn.of_reordered hfg⟩
  rw [opens_eq hfg] at hopens'
  obtain ⟨ts, hts, htr⟩ := List.perm_comp_forall₂ hperm hopens
  have hunique : Relator.RightUnique (Opens f layout) := fun n r s hr hs =>
    Except.ok.inj (hr.symm.trans hs)
  rw [List.right_unique_forall₂' hunique hopens' hts]
  exact htr

/-- **Sorted, the two lists are one.** -/
theorem sorted_of_reordered (hf : selection f layout stratum0 = .ok rs)
    (hg : selection g layout stratum0 = .ok ss) : sorted ss = sorted rs :=
  sorted_of_perm (perm_of_reordered hfg hf hg) fun _ => load_of_mem_selection hf

end Reordered

/-- What is to be listed, sorted: one repository for each name, in ascending byte order, in which
equal names are the same repository, and where all names are texts, in strictly ascending order. -/
theorem opens_of_sorted (h : selection f layout stratum0 = .ok rs) :
    (∃ ns : List Name, ns.Nodup ∧ (∀ n, n ∈ ns ↔ Chosen f layout stratum0 n) ∧
      List.Forall₂ (Opens f layout) ns (sorted rs)) ∧
    (sorted rs).Pairwise (fun r s => r.state.fqrn.utf8 ≤ s.state.fqrn.utf8 ∧
      (r.state.fqrn = s.state.fqrn → r = s)) ∧
    (Readable f layout →
      (sorted rs).Pairwise fun r s => r.state.fqrn.utf8 < s.state.fqrn.utf8) := by
  obtain ⟨ns, hnodup, hmem, hopens⟩ := opens_of_selection h
  refine ⟨?_, ?_, fun hreadable => ?_⟩
  · have hcomp : Relation.Comp (List.Forall₂ (Opens f layout)) List.Perm ns (sorted rs) :=
      ⟨rs, hopens, (sorted_perm rs).symm⟩
    rw [List.forall₂_comp_perm_eq_perm_comp_forall₂] at hcomp
    obtain ⟨ms, hperm, hms⟩ := hcomp
    exact ⟨ms, hperm.nodup_iff.1 hnodup, fun n => by rw [← hperm.mem_iff, hmem], hms⟩
  · refine (pairwise_sorted rs).imp_of_mem fun hr hs hle => ⟨utf8_le hle, fun hsame => ?_⟩
    have hload := load_of_mem_selection h (mem_sorted.1 hr)
    rw [hsame, load_of_mem_selection h (mem_sorted.1 hs)] at hload
    exact (Except.ok.inj hload).symm
  · obtain ⟨all', hall, hrs⟩ := exists_all_of_selection h
    have hsub : rs.Sublist all' := by
      rw [hrs]
      split
      next => exact List.filter_sublist
      next => exact List.Sublist.refl _
    have hne : (sorted rs).Pairwise fun r s => r.state.fqrn ≠ s.state.fqrn := by
      have hfqrns := (fqrns_of_all hreadable hall).1.sublist (hsub.map _)
      exact List.pairwise_map.1 (((sorted_perm rs).map _).nodup_iff.2 hfqrns)
    exact ((pairwise_sorted rs).and hne).imp fun hrs => Utf8.utf8_lt (lt_of_le_of_ne hrs.1 hrs.2)

end Installed

/-! ## What is shown -/

namespace CommandLine

open Installed

variable {w : World} {args : List String} {file? : Option String} {stratum0 : Bool}

/-- A list is shown if the layout can be read and the repositories can be opened. -/
theorem outcome_run_list :
    (run w ⟨file?, .list stratum0⟩).outcome = .ok () ↔
      ∃ layout, Layout.load w.files file? = .ok layout ∧
        ∃ rs, selection w.files layout stratum0 = .ok rs := by
  unfold run
  rw [Trail.outcome_bind, Outcome.bind_eq_ok_iff]
  refine exists_congr fun layout => ?_
  rw [outcome_within_eq_ok_iff, outcome_ofLocal_eq_ok_iff]
  refine and_congr_right fun _ => ?_
  show (list w layout stratum0).outcome = .ok () ↔ _
  unfold list
  rw [Trail.outcome_bind, Outcome.bind_eq_ok_iff]
  refine exists_congr fun rs => ?_
  rw [outcome_ofLocal_eq_ok_iff]
  exact and_iff_left rfl

/-- A list ends well and shows the sorted repositories, or it does not and shows nothing. -/
theorem execute_list (hargs : parse args = .run ⟨file?, .list stratum0⟩) :
    (∃ layout rs, Layout.load w.files file? = .ok layout ∧
      selection w.files layout stratum0 = .ok rs ∧
      (execute w args).exit = 0 ∧
      (execute w args).output = Report.table ((sorted rs).map Local.state)) ∨
    (¬∃ layout, Layout.load w.files file? = .ok layout ∧
      ∃ rs, selection w.files layout stratum0 = .ok rs) ∧
      (execute w args).exit = 1 ∧ (execute w args).output = "" := by
  have hexecute : execute w args = outcome (run w ⟨file?, .list stratum0⟩) := by
    unfold execute
    rw [hargs]
  have hrun := delivers_run w ⟨file?, .list stratum0⟩
  rw [hexecute]
  cases ho : (run w ⟨file?, .list stratum0⟩).outcome with
  | error c =>
    rw [outcome_of_error hrun ho]
    refine Or.inr ⟨?_, rfl, rfl⟩
    rw [← outcome_run_list, ho]
    nofun
  | ok _ =>
    obtain ⟨out, ⟨layout, hlayout, rs, hrs, hout⟩, hend⟩ := outcome_of_ok hrun ho
    rw [hend]
    exact Or.inl ⟨layout, rs, hlayout, hrs, rfl, hout⟩

/-- Two runs that list the same in two orders end in the same way and show the same. -/
theorem execute_of_reordered {f g : Files} (hfg : f.Reordered g) (web : Web)
    (hargs : parse args = .run ⟨file?, .list stratum0⟩) :
    (execute ⟨g, web⟩ args).exit = (execute ⟨f, web⟩ args).exit ∧
      (execute ⟨g, web⟩ args).output = (execute ⟨f, web⟩ args).output := by
  rcases execute_list (w := ⟨f, web⟩) hargs with
    ⟨layout, rs, hlayout, hrs, hexit, hout⟩ | ⟨hnone, hexit, hout⟩
  · have hlayout_g : Layout.load g file? = .ok layout := by rw [hfg.layout_eq, hlayout]
    rcases execute_list (w := ⟨g, web⟩) hargs with
      ⟨layout', ss, hlayout', hss, hexit', hout'⟩ | ⟨hnone, -, -⟩
    · obtain rfl : layout = layout' := Except.ok.inj (hlayout_g.symm.trans hlayout')
      rw [hexit, hexit', hout, hout', sorted_of_reordered hfg hrs hss]
      exact ⟨rfl, rfl⟩
    · exact absurd ⟨layout, hlayout_g, exists_selection_of_reordered hfg ⟨rs, hrs⟩⟩ hnone
  · rcases execute_list (w := ⟨g, web⟩) hargs with
      ⟨layout, rs, hlayout, hrs, -, -⟩ | ⟨-, hexit', hout'⟩
    · have hlayout_f : Layout.load f file? = .ok layout := by rw [hfg.symm.layout_eq, hlayout]
      exact absurd ⟨layout, hlayout_f, exists_selection_of_reordered hfg.symm ⟨rs, hrs⟩⟩ hnone
    · rw [hexit, hexit', hout, hout']
      exact ⟨rfl, rfl⟩

/-- A list of nothing says so, and any other has a line for each repository, a rule, and how many
they are. -/
theorem table_eq (states : List State) :
    (states = [] → Report.table states = "No repositories found.\n") ∧
    (states ≠ [] → Report.table states =
      Report.unlines (states.map Report.summary ++
        [Report.rule, toString states.length ++ " repositories"])) := by
  unfold Report.table Report.tableLines
  constructor
  · intro h
    rw [h]
    rfl
  · intro h
    rw [if_neg (by simp [h])]

/-- **The order of reading does not show.** However the entries of a machine are ordered, a list of
its repositories ends in the same way and shows the same. If it ends well, there is one repository
for each name that is to be listed, and they are shown in ascending byte order of what these names
are read as; names that are read alike are the same repository, and where all names are texts, no
two are. Of repositories it shows one line for each, a rule, and how many they are; of none it says
so. -/
theorem list_of_reordered {f g : Files} (hfg : f.Reordered g) (web : Web)
    (hargs : parse args = .run ⟨file?, .list stratum0⟩) :
    (execute ⟨g, web⟩ args).exit = (execute ⟨f, web⟩ args).exit ∧
    (execute ⟨g, web⟩ args).output = (execute ⟨f, web⟩ args).output ∧
    ((execute ⟨f, web⟩ args).exit = 0 →
      ∃ layout rs, Layout.load f file? = .ok layout ∧
        (∃ ns : List Name, ns.Nodup ∧ (∀ n, n ∈ ns ↔ Chosen f layout stratum0 n) ∧
          List.Forall₂ (Opens f layout) ns rs) ∧
        rs.Pairwise (fun r s => r.state.fqrn.utf8 ≤ s.state.fqrn.utf8 ∧
          (r.state.fqrn = s.state.fqrn → r = s)) ∧
        (Readable f layout →
          rs.Pairwise fun r s => r.state.fqrn.utf8 < s.state.fqrn.utf8) ∧
        (rs = [] → (execute ⟨f, web⟩ args).output = "No repositories found.\n") ∧
        (rs ≠ [] → (execute ⟨f, web⟩ args).output =
          Report.unlines (rs.map (fun r => Report.summary r.state) ++
            [Report.rule, toString rs.length ++ " repositories"]))) := by
  obtain ⟨hexit, hout⟩ := execute_of_reordered hfg web hargs
  refine ⟨hexit, hout, fun hzero => ?_⟩
  rcases execute_list (w := ⟨f, web⟩) hargs with
    ⟨layout, rs, hlayout, hrs, -, hshown⟩ | ⟨-, hone, -⟩
  · obtain ⟨hopens, hle, hlt⟩ := opens_of_sorted hrs
    obtain ⟨hnone, hsome⟩ := table_eq ((sorted rs).map Local.state)
    refine ⟨layout, sorted rs, hlayout, hopens, hle, hlt, ?_, ?_⟩
    · intro hnil
      rw [hshown, hnone (by rw [hnil]; rfl)]
    · intro hne
      rw [hshown, hsome (by simpa using hne), List.map_map, List.length_map]
      rfl
  · rw [hone] at hzero
    cases hzero

/-- Read backwards, the repositories of a machine are found in the opposite order. -/
theorem fqrns_crowded_reversed :
    (all crowded.reversed {}).map (·.map (·.state.fqrn)) = .ok ["b.org", "a.org"] := by
  decide +kernel

/-- They are shown in one order. -/
theorem list_of_reordered_crowded :
    (all crowded {}).map (·.map (·.state.fqrn)) = .ok ["a.org", "b.org"] ∧
    (all crowded.reversed {}).map (·.map (·.state.fqrn)) = .ok ["b.org", "a.org"] ∧
    parse ["list"] = .run ⟨none, .list false⟩ ∧
    (execute ⟨crowded, {}⟩ ["list"]).exit = 0 ∧
    (execute ⟨crowded.reversed, {}⟩ ["list"]).exit = 0 ∧
    (execute ⟨crowded.reversed, {}⟩ ["list"]).output = (execute ⟨crowded, {}⟩ ["list"]).output := by
  have hargs : parse ["list"] = .run ⟨none, .list false⟩ := by decide +kernel
  obtain ⟨hexit, hout, -⟩ := list_of_reordered crowded.reordered_reversed {} hargs
  have hdone : (execute ⟨crowded, {}⟩ ["list"]).exit = 0 := by
    rcases execute_list (w := ⟨crowded, {}⟩) hargs with ⟨_, _, -, -, hzero, -⟩ | ⟨hnone, -, -⟩
    · exact hzero
    · obtain ⟨rs, hrs, -⟩ := Outcome.map_eq_ok_iff.1 fqrns_crowded
      rw [← selection_false] at hrs
      exact absurd ⟨{}, rfl, rs, hrs⟩ hnone
  exact ⟨fqrns_crowded, fqrns_crowded_reversed, hargs, hdone, hexit.trans hdone, hout⟩

/-- A directory and one that is read alike are listed with two equal lines. -/
theorem summaries_misread :
    (all misread {}).map (·.map fun r => Report.summary r.state) =
      .ok (List.replicate 2
        (Report.fill 32 "\uFFFD" ++ " stratum0 unknown    last replication: never")) := by
  decide +kernel

/-- Two directories whose names are read alike are shown under one name, so that the names do not
ascend strictly. Where only stratum 1s are installed, a list of the stratum 0s shows no lines for
them, no rule and no number. -/
theorem shown_twice_of_misread :
    (execute ⟨misread, {}⟩ ["list"]).exit = 0 ∧
    (execute ⟨misread, {}⟩ ["list"]).output =
      Report.unlines [
        Report.fill 32 "\uFFFD" ++ " stratum0 unknown    last replication: never",
        Report.fill 32 "\uFFFD" ++ " stratum0 unknown    last replication: never",
        Report.rule, "2 repositories"] ∧
    (execute (mirrored .stratum1) ["list", "--stratum0"]).exit = 0 ∧
    (execute (mirrored .stratum1) ["list", "--stratum0"]).output = "No repositories found.\n" := by
  have hargs : parse ["list"] = .run ⟨none, .list false⟩ := by decide +kernel
  obtain ⟨rs, hrs, hlines⟩ := Outcome.map_eq_ok_iff.1 summaries_misread
  rcases execute_list (w := ⟨misread, {}⟩) hargs with
    ⟨layout, rs', hlayout, hrs', hexit, hout⟩ | ⟨hnone, -, -⟩
  · obtain rfl : {} = layout := Except.ok.inj hlayout
    obtain rfl : rs = rs' := Except.ok.inj (hrs.symm.trans hrs')
    -- Equal lines stay where they are when they are sorted.
    have hperm := (sorted_perm rs).map fun r => Report.summary r.state
    rw [hlines, List.perm_replicate] at hperm
    have hlength : (sorted rs).length = 2 := by
      rw [← List.length_map, hperm, List.length_replicate]
    obtain ⟨-, hsome⟩ := table_eq ((sorted rs).map Local.state)
    have hne : (sorted rs).map Local.state ≠ [] := by
      rw [← List.length_pos_iff, List.length_map, hlength]
      decide
    rw [hsome hne, List.map_map, List.length_map, hlength] at hout
    refine ⟨hexit, hout.trans ?_, ?_, ?_⟩
    · show Report.unlines ((sorted rs).map (fun r => Report.summary r.state) ++ _) = _
      rw [hperm]
      rfl
    · decide +kernel
    · decide +kernel
  · exact absurd ⟨{}, rfl, rs, hrs⟩ hnone

end CommandLine

end Stratum
