import Stratum.Proofs.Complaints
import Stratum.Proofs.Lines
import Stratum.Proofs.LocalOpening
import Stratum.Proofs.Looking
import Stratum.Proofs.Sight

/-!
# Checking a replica

The command `check-replica` opens a repository on the web, and then the repository of this
machine that has the name in its manifest. `outcome_checkReplica` says what comes of that, in
terms of the two openings alone. From it follows what the command tells its user:

> `missing_iff_absent_or_hidden`: it says that there is no replica exactly if there is none at the
> URL, and that there is no stratum 0 exactly if this machine has none, or has one and something is
> in the way of seeing it; it tells every other failure as a failure to open.
> `stratum0_of_checkReplica_iff`: it succeeds exactly if both can be opened. The repository of
> this machine is a stratum 0 exactly if its configuration says so, and the command does not ask.
-/

namespace Stratum

open Text

/-! ## Absence -/

namespace Local

variable {f : Files} {layout : Layout} {fqrn root : String}

/-- All that is looked up in the configuration of a repository is as it must be, and this is its
storage root. -/
structure Sound (f : Files) (layout : Layout) (fqrn root : String) : Prop where
  kind : ∃ kind, declaredKind f (confOf layout fqrn) = .ok kind
  storage : declaredStorage f (confOf layout fqrn) = .ok root
  version : ∃ version, (confOf layout fqrn).readOptional f versionField = .ok version

/-- There is no repository of that name on this machine: the directory of its configuration is
none, or the configuration is sound and there is no manifest. -/
def Absent (f : Files) (layout : Layout) (fqrn : String) : Prop :=
  ¬f.HasDir (layout.confDir fqrn) ∨
  ∃ root, Sound f layout fqrn root ∧ ¬f.Has (Path.join root layout.manifestName)

/-- Something is in the way of seeing it: the directory of the configuration is there and cannot be
looked up, or the configuration is sound and the manifest is there and cannot be looked up. -/
def Hidden (f : Files) (layout : Layout) (fqrn : String) : Prop :=
  f.HasDir (layout.confDir fqrn) ∧ f.Hindered (layout.confDir fqrn) ∨
  ∃ root, Sound f layout fqrn root ∧ f.Has (Path.join root layout.manifestName) ∧
    f.Hindered (Path.join root layout.manifestName)

/-- A configuration is accepted exactly if its directory is seen and it is sound. -/
theorem exists_configure_iff :
    (∃ setup, configure f layout fqrn = .ok setup ∧ setup.storageRoot = root) ↔
      f.isDir (layout.confDir fqrn) = true ∧ Sound f layout fqrn root := by
  constructor
  · rintro ⟨setup, hsetup, rfl⟩
    obtain ⟨hdir, hkind, hroot, version, hversion, -⟩ := configure_eq_ok_iff.1 hsetup
    exact ⟨hdir, ⟨_, hkind⟩, hroot, _, hversion⟩
  · rintro ⟨hdir, ⟨kind, hkind⟩, hroot, version, hversion⟩
    refine ⟨⟨kind, root, version.getD layout.version⟩, ?_, rfl⟩
    exact configure_eq_ok_iff.2 ⟨hdir, hkind, hroot, version, hversion, rfl⟩

/-- **A repository of this machine is missing exactly if it is absent or hidden.** -/
theorem missing_load_iff_absent_or_hidden :
    Missing (load f layout fqrn) ↔ Absent f layout fqrn ∨ Hidden f layout fqrn := by
  have hmissing : Missing (load f layout fqrn) ↔ f.isDir (layout.confDir fqrn) = false ∨
      ∃ root, Sound f layout fqrn root ∧
        f.contains (Path.join root layout.manifestName) = false := by
    rw [missing_load_iff]
    constructor
    · rintro (h | ⟨setup, hsetup, h⟩)
      · exact Or.inl h
      · exact Or.inr ⟨_, (exists_configure_iff.1 ⟨setup, hsetup, rfl⟩).2, h⟩
    · rintro (h | ⟨root, hsound, h⟩)
      · exact Or.inl h
      · cases hdir : f.isDir (layout.confDir fqrn) with
        | false => exact Or.inl rfl
        | true =>
          obtain ⟨setup, hsetup, rfl⟩ := exists_configure_iff.2 ⟨hdir, hsound⟩
          exact Or.inr ⟨setup, hsetup, h⟩
  rw [hmissing, Files.isDir_eq_false_iff]
  simp only [Files.contains_eq_false_iff, and_or_left, exists_or]
  exact or_or_or_comm

/-- What has a directory for its configuration and a manifest in its storage root is not absent. -/
theorem not_absent (hdir : f.HasDir (layout.confDir fqrn))
    (hroot : declaredStorage f (confOf layout fqrn) = .ok root)
    (hmanifest : f.Has (Path.join root layout.manifestName)) : ¬Absent f layout fqrn := by
  rintro (h | ⟨root', hsound, h⟩)
  · exact h hdir
  · obtain rfl : root = root' := Except.ok.inj (hroot.symm.trans hsound.storage)
    exact h hmanifest

end Local

/-- There is no repository at that URL: it is a URL, its server tells what there is to tell, and
the request for the manifest is answered, but without success. -/
def Remote.Absent (w : Web) (layout : Layout) (url : String) : Prop :=
  ∃ e, Endpoint.ofUrl url layout = .ok e ∧ e.Tells w ∧
    ∃ r, (Endpoint.request w .get (e.artifactUrl layout.manifestName)).outcome = .ok r ∧
      r.isSuccess = false

/-- The URL of a repository that can be opened does not start with any character of schemes but the
first one of `http`. -/
theorem Remote.toLower_of_connect {w : Web} {layout : Layout} {url : String} {r : Remote}
    (h : (Remote.connect w layout url).outcome = .ok r) {c : Char}
    (hc : url.toList.head? = some c) (hscheme : Url.isSchemeChar c = true) : c.toLower = 'h' := by
  obtain ⟨e, probe, he, hprobe, -⟩ := Remote.endpoint_of_connect h
  unfold Endpoint.request at hprobe
  split at hprobe
  next => cases hprobe
  next v hv =>
    obtain hsend := Outcome.mapError_eq_ok_iff.1 hprobe
    rw [Endpoint.controlUrl_eq] at hv
    obtain ⟨u, hu, hsame⟩ := (Endpoint.isAt_of_ofUrl he).scheme_below hv
    have hhead := Url.head?_scheme_of_parse hu hc hscheme
    rw [← hsame] at hhead
    rcases Client.scheme_of_send hsend with hv | hv
    all_goals
      rw [hv] at hhead
      exact (Option.some.inj hhead).symm

namespace CommandLine

/-! ## What comes of the command -/

/-- What is said of a failure to open what a URL names. -/
def replicaComplaint (url : String) (e : Failure) : Complaint :=
  if e.isNotFound then [url ++ " does not point to a CVMFS replica"]
  else ("Failed to open " ++ url) :: causes e

/-- What is said of a failure to open the repository of this machine. -/
def stratum0Complaint (fqrn : String) (e : Failure) : Complaint :=
  if e.isNotFound then ["the stratum 0 of " ++ fqrn ++ " was not found"]
  else ("Failed to open local " ++ fqrn) :: causes e

/-- The first step is the opening of what the URL names. -/
theorem outcome_findReplica (w : World) (layout : Layout) (url : String) :
    (findReplica w layout url).outcome =
      (Remote.connect w.web layout url).outcome.mapError (replicaComplaint url) := by
  unfold findReplica
  rw [Trail.outcome_expand, Trail.outcome_mapError]
  rfl

/-- The second step is the opening of the repository of this machine. -/
theorem outcome_findStratum0 (w : World) (layout : Layout) (fqrn : String) :
    (findStratum0 w layout fqrn).outcome =
      (Local.load w.files layout fqrn).mapError (stratum0Complaint fqrn) := by
  unfold findStratum0
  rw [Trail.outcome_of]
  rfl

/-- The two openings, one after the other, are all there is to the outcome. -/
theorem outcome_checkReplica (w : World) (layout : Layout) (url : String) :
    (checkReplica w layout url).outcome =
      (Remote.connect w.web layout url).outcome.mapError (replicaComplaint url) >>= fun r =>
      ((Local.load w.files layout r.state.fqrn).mapError
        (stratum0Complaint r.state.fqrn)).map fun _ => () := by
  unfold checkReplica
  rw [Trail.outcome_bind, outcome_findReplica]
  refine bind_congr fun r => ?_
  rw [Trail.outcome_bind, outcome_findStratum0]
  cases (Local.load w.files layout r.state.fqrn).mapError (stratum0Complaint r.state.fqrn) <;> rfl

/-- The command succeeds exactly if both can be opened. -/
theorem checkReplica_eq_ok_iff {w : World} {layout : Layout} {url : String} :
    (checkReplica w layout url).outcome = .ok () ↔
      ∃ r home, (Remote.connect w.web layout url).outcome = .ok r ∧
        Local.load w.files layout r.state.fqrn = .ok home := by
  rw [outcome_checkReplica, Outcome.bind_eq_ok_iff]
  refine exists_congr fun r => ?_
  rw [Outcome.mapError_eq_ok_iff, Outcome.map_eq_ok_iff, exists_and_left]
  refine and_congr_right fun _ => exists_congr fun home => ?_
  rw [Outcome.mapError_eq_ok_iff]
  exact and_iff_left rfl

/-- It fails with what is said of one failure, or the other. -/
theorem checkReplica_eq_error_iff {w : World} {layout : Layout} {url : String} {c : Complaint} :
    (checkReplica w layout url).outcome = .error c ↔
      (∃ e, (Remote.connect w.web layout url).outcome = .error e ∧ replicaComplaint url e = c) ∨
      ∃ r e, (Remote.connect w.web layout url).outcome = .ok r ∧
        Local.load w.files layout r.state.fqrn = .error e ∧
        stratum0Complaint r.state.fqrn e = c := by
  rw [outcome_checkReplica, Outcome.bind_eq_error_iff, Outcome.mapError_eq_error_iff]
  refine or_congr_right (exists_congr fun r => ?_)
  rw [Outcome.mapError_eq_ok_iff, Outcome.map_eq_error_iff, Outcome.mapError_eq_error_iff,
    exists_and_left]

/-- With its layout file read, a command is all there is to a run. -/
theorem execute_of_parse {w : World} {args : List String} {path : Option String}
    {layout : Layout} {command : Command} (hargs : parse args = .run ⟨path, command⟩)
    (hlayout : Layout.load w.files path = .ok layout) :
    execute w args = outcome (runCommand w layout command) := by
  have hload : (within "Failed to load configuration"
      (ofLocal (Layout.load w.files path))).outcome = .ok layout := by
    rw [hlayout]
    rfl
  unfold execute
  rw [hargs]
  show outcome (run w ⟨path, command⟩) = _
  unfold run
  rw [Trail.bind_of_ok hload]
  rfl

/-- A run exits with 0 exactly if it succeeds. -/
theorem exit_outcome_eq_zero_iff {r : Run Unit} :
    (outcome r).exit = 0 ↔ r.outcome = .ok () := by
  unfold outcome
  cases r.outcome <;> simp

/-! ## What the user is told -/

/-- No text is both: one ends with `a` and the other with `d`. -/
theorem no_replica_ne_no_stratum0 (url fqrn : String) :
    url ++ " does not point to a CVMFS replica" ≠
      "the stratum 0 of " ++ fqrn ++ " was not found" := by
  intro h
  have ha : (url ++ " does not point to a CVMFS replica").toList.getLast? = some 'a' :=
    getLast?_toList_append (by decide)
  have hd : ("the stratum 0 of " ++ fqrn ++ " was not found").toList.getLast? = some 'd' :=
    getLast?_toList_append (by decide)
  rw [h, hd] at ha
  exact absurd ha (by decide)

/-- A failure has at least one cause. -/
theorem causes_ne_nil (e : Failure) : causes e ≠ [] := List.cons_ne_nil _ _

/-- A complaint reads like no text that begins with another letter. -/
theorem complaintLines_ne {what text : String} {why : List String} {c : Char}
    (hwhat : what.toList.head? = some c) (htext : text.toList.head? ≠ some c) :
    complaintLines (what :: why) ≠ linesOf ("Error: " ++ text) := by
  intro h
  obtain ⟨r, hr⟩ := prefix_of_complaintLines h
  refine htext ?_
  rw [← hr, List.head?_append, hwhat]
  rfl

/-- It reads as if there were no replica exactly if the failure means that. -/
theorem replicaComplaint_lines_iff {url : String} {e : Failure} :
    complaintLines (replicaComplaint url e) =
        linesOf ("Error: " ++ (url ++ " does not point to a CVMFS replica")) ↔
      e.isNotFound = true := by
  unfold replicaComplaint
  cases e.isNotFound with
  | true => simp [complaintLines_singleton]
  | false =>
    refine iff_of_false (fun h => ?_) Bool.false_ne_true
    -- Both texts have the line ends of the URL, and the causes are lines of their own.
    have hcount := count_of_complaintLines (causes_ne_nil e) h
    rw [String.toList_append, String.toList_append, List.count_append, List.count_append,
      show "Failed to open ".toList.count '\n' = 0 by decide,
      show " does not point to a CVMFS replica".toList.count '\n' = 0 by decide] at hcount
    omega

/-- It reads as if there were no stratum 0 of a name exactly if the failure means that, and the name
is the one that was looked for. -/
theorem stratum0Complaint_lines_iff {name fqrn : String} {e : Failure} :
    complaintLines (stratum0Complaint name e) =
        linesOf ("Error: " ++ ("the stratum 0 of " ++ fqrn ++ " was not found")) ↔
      e.isNotFound = true ∧ name = fqrn := by
  unfold stratum0Complaint
  cases e.isNotFound with
  | true =>
    rw [if_pos rfl, complaintLines_singleton_eq_iff, String.append_left_inj,
      String.append_right_inj]
    exact (and_iff_right rfl).symm
  | false =>
    refine iff_of_false (fun h => ?_) fun h => Bool.false_ne_true h.1
    exact complaintLines_ne (c := 'F') (head?_toList_append (by decide)) (by simp) h

/-- Nothing that is said of the repository on the web reads as if there were no stratum 0. -/
theorem replicaComplaint_lines_ne (url fqrn : String) (e : Failure) :
    complaintLines (replicaComplaint url e) ≠
      linesOf ("Error: " ++ ("the stratum 0 of " ++ fqrn ++ " was not found")) := by
  unfold replicaComplaint
  cases e.isNotFound with
  | true =>
    rw [if_pos rfl, Ne, complaintLines_singleton_eq_iff]
    exact no_replica_ne_no_stratum0 url fqrn
  | false => exact complaintLines_ne (c := 'F') (head?_toList_append (by decide)) (by simp)

/-- Nothing that is said of the repository of this machine reads as if there were no replica, as
long as the URL does not start like a failure to open. -/
theorem stratum0Complaint_lines_ne {url : String} (hurl : url.toList.head? ≠ some 'F')
    (fqrn : String) (e : Failure) :
    complaintLines (stratum0Complaint fqrn e) ≠
      linesOf ("Error: " ++ (url ++ " does not point to a CVMFS replica")) := by
  unfold stratum0Complaint
  cases e.isNotFound with
  | true =>
    rw [if_pos rfl, Ne, complaintLines_singleton_eq_iff]
    exact (no_replica_ne_no_stratum0 url fqrn).symm
  | false =>
    refine complaintLines_ne (c := 'F') (head?_toList_append (by decide)) ?_
    rw [String.toList_append, List.head?_append]
    cases hhead : url.toList.head? with
    | none => decide
    | some c =>
      rw [hhead] at hurl
      exact hurl

section

variable {w : World} {layout : Layout} {url : String}

/-- The command says that there is no replica exactly if there is none at the URL. -/
theorem no_replica_iff :
    (outcome (checkReplica w layout url)).complaint =
        linesOf ("Error: " ++ (url ++ " does not point to a CVMFS replica")) ↔
      Remote.Absent w.web layout url := by
  rw [complaint_outcome_eq_iff (linesOf_ne_nil _), Remote.Absent, ← Remote.missing_connect_iff]
  constructor
  · rintro ⟨c, hc, hsaid⟩
    rcases checkReplica_eq_error_iff.1 hc with ⟨e, he, rfl⟩ | ⟨r, e, hr, -, rfl⟩
    · exact ⟨e, he, replicaComplaint_lines_iff.1 hsaid⟩
    · refine absurd hsaid (stratum0Complaint_lines_ne (fun hF => ?_) _ _)
      -- No URL of a repository starts with this letter.
      exact absurd (Remote.toLower_of_connect hr hF (by decide)) (by decide)
  · rintro ⟨e, he, hmissing⟩
    refine ⟨_, checkReplica_eq_error_iff.2 (Or.inl ⟨e, he, rfl⟩), ?_⟩
    exact replicaComplaint_lines_iff.2 hmissing

/-- It says that there is no stratum 0 of a name exactly if the replica has that name, and this
machine has no repository of it that can be seen. -/
theorem no_stratum0_iff {fqrn : String} :
    (outcome (checkReplica w layout url)).complaint =
        linesOf ("Error: " ++ ("the stratum 0 of " ++ fqrn ++ " was not found")) ↔
      ∃ r, (Remote.connect w.web layout url).outcome = .ok r ∧ r.state.fqrn = fqrn ∧
        (Local.Absent w.files layout fqrn ∨ Local.Hidden w.files layout fqrn) := by
  rw [complaint_outcome_eq_iff (linesOf_ne_nil _), ← Local.missing_load_iff_absent_or_hidden]
  constructor
  · rintro ⟨c, hc, hsaid⟩
    rcases checkReplica_eq_error_iff.1 hc with ⟨e, -, rfl⟩ | ⟨r, e, hr, he, rfl⟩
    · exact absurd hsaid (replicaComplaint_lines_ne _ _ _)
    · obtain ⟨hmissing, rfl⟩ := stratum0Complaint_lines_iff.1 hsaid
      exact ⟨r, hr, rfl, e, he, hmissing⟩
  · rintro ⟨r, hr, rfl, e, he, hmissing⟩
    refine ⟨_, checkReplica_eq_error_iff.2 (Or.inr ⟨r, e, hr, he, rfl⟩), ?_⟩
    exact stratum0Complaint_lines_iff.2 ⟨hmissing, rfl⟩

/-- Where the repository on the web cannot be opened, though it is not absent, that is said. -/
theorem complaint_of_connect_error {e : Failure}
    (he : (Remote.connect w.web layout url).outcome = .error e)
    (habsent : ¬Remote.Absent w.web layout url) :
    (outcome (checkReplica w layout url)).complaint =
      linesOf ("Error: " ++ ("Failed to open " ++ url)) ++ whyLines (causes e) := by
  rw [Remote.Absent, ← Remote.missing_connect_iff, he, missing_error_iff] at habsent
  have hfail := checkReplica_eq_error_iff.2 (Or.inl ⟨e, he, rfl⟩)
  unfold replicaComplaint at hfail
  rw [if_neg habsent] at hfail
  unfold outcome
  rw [hfail]
  rfl

/-- So it is where that of this machine cannot be opened, though it is neither absent nor hidden. -/
theorem complaint_of_load_error {r : Remote} {e : Failure}
    (hr : (Remote.connect w.web layout url).outcome = .ok r)
    (he : Local.load w.files layout r.state.fqrn = .error e)
    (hseen : ¬(Local.Absent w.files layout r.state.fqrn ∨
      Local.Hidden w.files layout r.state.fqrn)) :
    (outcome (checkReplica w layout url)).complaint =
      linesOf ("Error: " ++ ("Failed to open local " ++ r.state.fqrn)) ++ whyLines (causes e) := by
  rw [← Local.missing_load_iff_absent_or_hidden, he, missing_error_iff] at hseen
  have hfail := checkReplica_eq_error_iff.2 (Or.inr ⟨r, e, hr, he, rfl⟩)
  unfold stratum0Complaint at hfail
  rw [if_neg hseen] at hfail
  unfold outcome
  rw [hfail]
  rfl

end

/-- **What is said to be missing is absent or hidden, and what is absent or hidden is said to be
missing.** A repository on the web cannot be hidden: what is in the way of seeing it is told as
such. The command, whatever its arguments are, says that there is no replica or no stratum 0 in
exactly these cases, and tells any other failure, with its causes, as a failure to open. -/
theorem missing_iff_absent_or_hidden (w : World) (layout : Layout) :
    (∀ fqrn, Missing (Local.load w.files layout fqrn) ↔
      Local.Absent w.files layout fqrn ∨ Local.Hidden w.files layout fqrn) ∧
    (∀ url, Missing (Remote.connect w.web layout url).outcome ↔ Remote.Absent w.web layout url) ∧
    ∀ args path url, parse args = .run ⟨path, .checkReplica url⟩ →
      Layout.load w.files path = .ok layout →
      ((execute w args).complaint =
          linesOf ("Error: " ++ (url ++ " does not point to a CVMFS replica")) ↔
        Remote.Absent w.web layout url) ∧
      (∀ fqrn, (execute w args).complaint =
          linesOf ("Error: " ++ ("the stratum 0 of " ++ fqrn ++ " was not found")) ↔
        ∃ r, (Remote.connect w.web layout url).outcome = .ok r ∧ r.state.fqrn = fqrn ∧
          (Local.Absent w.files layout fqrn ∨ Local.Hidden w.files layout fqrn)) ∧
      (∀ e, (Remote.connect w.web layout url).outcome = .error e →
        ¬Remote.Absent w.web layout url →
        (execute w args).complaint =
          linesOf ("Error: " ++ ("Failed to open " ++ url)) ++ whyLines (causes e)) ∧
      ∀ r e, (Remote.connect w.web layout url).outcome = .ok r →
        Local.load w.files layout r.state.fqrn = .error e →
        ¬(Local.Absent w.files layout r.state.fqrn ∨
          Local.Hidden w.files layout r.state.fqrn) →
        (execute w args).complaint =
          linesOf ("Error: " ++ ("Failed to open local " ++ r.state.fqrn)) ++
            whyLines (causes e) := by
  refine ⟨fun fqrn => Local.missing_load_iff_absent_or_hidden,
    fun url => Remote.missing_connect_iff, ?_⟩
  intro args path url hargs hlayout
  rw [execute_of_parse hargs hlayout]
  refine ⟨no_replica_iff, fun fqrn => no_stratum0_iff, ?_, ?_⟩
  · intro e he habsent
    exact complaint_of_connect_error he habsent
  · intro r e hr he hseen
    exact complaint_of_load_error hr he hseen

/-- A machine with one repository of a kind, and a web with a copy of its manifest. -/
def mirrored (k : Kind) : World where
  files := {
    entries :=
      [(.of ["etc"], .dir), (.of ["etc", "cvmfs"], .dir),
        (.of ["etc", "cvmfs", "repositories.d"], .dir),
        (.of ["etc", "cvmfs", "repositories.d", "a.org"], .dir),
        (.of ["etc", "cvmfs", "repositories.d", "a.org", "server.conf"],
          .file ("CVMFS_REPOSITORY_TYPE=" ++ k.name ++
            "\nCVMFS_UPSTREAM_STORAGE=local,/tmp,/srv/a.org\n").utf8),
        (.of ["srv"], .dir), (.of ["srv", "a.org"], .dir),
        (.of ["srv", "a.org", ".cvmfspublished"], .file "Na.org\n".utf8)]
    cwd := []
    nodup := by cases k <;> decide +kernel
    proper := by cases k <;> decide +kernel }
  web := { routes := [⟨.get, .exactly "http://h/a.org/.cvmfspublished", { body := "Na.org\n".utf8 }⟩] }

/-- An empty web has no replica, and the command says so. -/
theorem missing_iff_absent_or_hidden_bare :
    parse ["check-replica", "http://h/a.org"] = .run ⟨none, .checkReplica "http://h/a.org"⟩ ∧
    Layout.load Files.bare none = .ok {} ∧
    (execute ⟨Files.bare, {}⟩ ["check-replica", "http://h/a.org"]).complaint =
      ["Error: http://h/a.org does not point to a CVMFS replica"] ∧
    Remote.Absent {} {} "http://h/a.org" := by
  have hargs : parse ["check-replica", "http://h/a.org"] =
      .run ⟨none, .checkReplica "http://h/a.org"⟩ := by decide +kernel
  have hlayout : Layout.load Files.bare none = .ok {} := rfl
  have hsaid : (execute ⟨Files.bare, {}⟩ ["check-replica", "http://h/a.org"]).complaint =
      ["Error: http://h/a.org does not point to a CVMFS replica"] := by decide +kernel
  obtain ⟨hreplica, -⟩ :=
    (missing_iff_absent_or_hidden ⟨Files.bare, {}⟩ {}).2.2 _ none "http://h/a.org" hargs hlayout
  exact ⟨hargs, hlayout, hsaid, hreplica.1 (hsaid.trans (by decide +kernel))⟩

/-- A machine with a repository in a storage root that may not be searched. -/
def veiled : World :=
  { mirrored .stratum0 with
    files.obstacles.search := fun p _ => if p = .of ["srv", "a.org"] then some .denied else none }

/-- A machine with a repository in a storage root that is reached over more links than are
followed. -/
def entangled : World where
  files := {
    entries :=
      [(.of ["etc"], .dir), (.of ["etc", "cvmfs"], .dir),
        (.of ["etc", "cvmfs", "repositories.d"], .dir),
        (.of ["etc", "cvmfs", "repositories.d", "a.org"], .dir),
        (.of ["etc", "cvmfs", "repositories.d", "a.org", "server.conf"],
          .file "CVMFS_REPOSITORY_TYPE=stratum0\nCVMFS_UPSTREAM_STORAGE=local,/tmp,/links/0\n".utf8),
        (.of ["srv"], .dir), (.of ["srv", "a.org"], .dir),
        (.of ["srv", "a.org", ".cvmfspublished"], .file "Na.org\n".utf8)] ++
      Files.chain "/srv/a.org"
    cwd := []
    nodup := by decide +kernel
    proper := by decide +kernel }
  web := (mirrored .stratum0).web

/-- A repository whose manifest cannot be looked up is said to be missing, though it is there. -/
theorem missing_though_there :
    (Missing (Local.load veiled.files {} "a.org") ∧ ¬Local.Absent veiled.files {} "a.org" ∧
      (execute veiled ["check-replica", "http://h/a.org"]).complaint =
        ["Error: the stratum 0 of a.org was not found"]) ∧
    (Missing (Local.load entangled.files {} "a.org") ∧ ¬Local.Absent entangled.files {} "a.org" ∧
      (execute entangled ["check-replica", "http://h/a.org"]).complaint =
        ["Error: the stratum 0 of a.org was not found"]) := by
  have hargs : parse ["check-replica", "http://h/a.org"] =
      .run ⟨none, .checkReplica "http://h/a.org"⟩ := by decide +kernel
  have hconnect : (Remote.connect (mirrored .stratum0).web {} "http://h/a.org").outcome.map
      (·.state.fqrn) = .ok "a.org" := by decide +kernel
  obtain ⟨r, hr, hname⟩ := Outcome.map_eq_ok_iff.1 hconnect
  -- The replica is the same in both cases, so what is said depends on the machine alone.
  have hsaid (w : World) (hweb : w.web = (mirrored .stratum0).web)
      (h : Missing (Local.load w.files {} "a.org")) :
      (execute w ["check-replica", "http://h/a.org"]).complaint =
        ["Error: the stratum 0 of a.org was not found"] := by
    have hlayout : Layout.load w.files none = .ok {} := rfl
    rw [← hweb] at hr
    rw [execute_of_parse hargs hlayout]
    refine (no_stratum0_iff.2 ⟨r, hr, hname, ?_⟩).trans (by decide +kernel)
    exact Local.missing_load_iff_absent_or_hidden.1 h
  have hmissing (f : Files) (root : String) (h : (Local.load f {} "a.org").map (·.state.kind) =
      .error (.repositoryNotFound root)) : Missing (Local.load f {} "a.org") :=
    ⟨_, Outcome.map_eq_error_iff.1 h, rfl⟩
  have hveiled : Missing (Local.load veiled.files {} "a.org") :=
    hmissing veiled.files "/srv/a.org" (by decide +kernel)
  have hentangled : Missing (Local.load entangled.files {} "a.org") :=
    hmissing entangled.files "/links/0" (by decide +kernel)
  have hroot : Local.declaredStorage veiled.files (Local.confOf {} "a.org") =
      .ok "/srv/a.org" := by decide +kernel
  have hlinks : Local.declaredStorage entangled.files (Local.confOf {} "a.org") =
      .ok "/links/0" := by decide +kernel
  refine ⟨⟨hveiled, Local.not_absent ?_ hroot ?_, hsaid veiled rfl hveiled⟩,
    hentangled, Local.not_absent ?_ hlinks ?_, hsaid entangled rfl hentangled⟩
  · refine ⟨.of ["etc", "cvmfs", "repositories.d", "a.org"], ?_, ?_, 0, ?_⟩ <;> decide +kernel
  · refine ⟨⟨.of ["srv", "a.org", ".cvmfspublished"], .file "Na.org\n".utf8⟩, ?_, ?_, 0, ?_⟩ <;>
      decide +kernel
  · refine ⟨.of ["etc", "cvmfs", "repositories.d", "a.org"], ?_, ?_, 0, ?_⟩ <;> decide +kernel
  · refine ⟨⟨.of ["srv", "a.org", ".cvmfspublished"], .file "Na.org\n".utf8⟩, ?_, ?_, 41, ?_⟩ <;>
      decide +kernel

/-- **When the repository of this machine is a stratum 0.** The command succeeds exactly if both
repositories can be opened. The one of this machine then is of the kind that its configuration
declares, so that it is a stratum 0 in exactly the cases in which the configuration says so; the
command itself does not ask. -/
theorem stratum0_of_checkReplica_iff {w : World} {args : List String} {path : Option String}
    {url : String} {layout : Layout} (hargs : parse args = .run ⟨path, .checkReplica url⟩)
    (hlayout : Layout.load w.files path = .ok layout) :
    ((execute w args).exit = 0 ↔
      ∃ r home, (Remote.connect w.web layout url).outcome = .ok r ∧
        Local.load w.files layout r.state.fqrn = .ok home) ∧
    ∀ r home, (Remote.connect w.web layout url).outcome = .ok r →
      Local.load w.files layout r.state.fqrn = .ok home →
      (home.state.kind = .stratum0 ↔
        (Local.confOf layout r.state.fqrn).read w.files Local.kindField = .ok "stratum0") ∧
      (home.state.kind = .stratum1 ↔
        (Local.confOf layout r.state.fqrn).read w.files Local.kindField = .ok "stratum1") ∧
      (home.state.kind = .stratum0 ∨ home.state.kind = .stratum1) := by
  refine ⟨?_, ?_⟩
  · rw [execute_of_parse hargs hlayout, exit_outcome_eq_zero_iff]
    exact checkReplica_eq_ok_iff
  · intro r home _ hload
    have hkind := Local.declaredKind_of_load hload
    obtain ⟨hknown, hread⟩ := Local.declaredKind_eq_ok_iff.1 hkind
    rw [hread]
    cases hk : home.state.kind with
    | stratum0 => simp [Kind.name]
    | stratum1 => simp [Kind.name]
    | unknown => rw [hk] at hknown; cases hknown

/-- Where the configuration declares a stratum 0, the command succeeds on one. -/
theorem stratum0_of_checkReplica_mirrored :
    parse ["check-replica", "http://h/a.org"] = .run ⟨none, .checkReplica "http://h/a.org"⟩ ∧
    Layout.load (mirrored .stratum0).files none = .ok {} ∧
    (execute (mirrored .stratum0) ["check-replica", "http://h/a.org"]).exit = 0 ∧
    ∃ home, Local.load (mirrored .stratum0).files {} "a.org" = .ok home ∧
      home.state.kind = .stratum0 := by
  have hargs : parse ["check-replica", "http://h/a.org"] =
      .run ⟨none, .checkReplica "http://h/a.org"⟩ := by decide +kernel
  have hlayout : Layout.load (mirrored .stratum0).files none = .ok {} := rfl
  have hexit : (execute (mirrored .stratum0) ["check-replica", "http://h/a.org"]).exit = 0 := by
    decide +kernel
  obtain ⟨hboth, hkind⟩ := stratum0_of_checkReplica_iff hargs hlayout
  obtain ⟨r, home, hr, hload⟩ := hboth.1 hexit
  have hname : (Remote.connect (mirrored .stratum0).web {} "http://h/a.org").outcome.map
      (·.state.fqrn) = .ok "a.org" := by decide +kernel
  have hread : (Local.confOf {} "a.org").read (mirrored .stratum0).files Local.kindField =
      .ok "stratum0" := by decide +kernel
  rw [hr] at hname
  have hfqrn : r.state.fqrn = "a.org" := Except.ok.inj hname
  have hstratum0 := (hkind r home hr hload).1
  rw [hfqrn] at hload hstratum0
  exact ⟨hargs, hlayout, hexit, home, hload, hstratum0.2 hread⟩

/-- A stratum 1 passes for the stratum 0 of a replica. -/
theorem checkReplica_stratum1 :
    (execute (mirrored .stratum1) ["check-replica", "http://h/a.org"]).exit = 0 ∧
    (Remote.connect (mirrored .stratum1).web {} "http://h/a.org").outcome.map (·.state.fqrn) =
      .ok "a.org" ∧
    (Local.load (mirrored .stratum1).files {} "a.org").map (·.state.kind) = .ok .stratum1 := by
  decide +kernel

end CommandLine

end Stratum
