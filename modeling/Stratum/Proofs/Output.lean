import Stratum.CommandLine.Run
import Stratum.Proofs.LocalOpening
import Stratum.Proofs.RemoteOpening
import Stratum.Proofs.Trails

/-!
# What commands print

A command prints when all that can fail is behind it. For most of them that is plain from the order
of their steps. The report on a repository on the web is not one of these: its last line says
whether there is a control interface, which is asked for when the rest has been printed, and can
only be answered without fail because opening the repository has found it out.

> `delivers_runCommand`: a command that fails has printed nothing, and one that succeeds all that
> it has to print.
> `all_or_nothing`: the same, seen from outside.
-/

namespace Stratum.CommandLine

open Text

variable {α β : Type} {w : World} {layout : Layout}

/-! ## Runs that print nothing -/

/-- Nothing is printed. -/
def Silent (r : Run α) : Prop := r.Only fun e => ∃ s, e = .sent s

/-- Something local prints nothing. -/
theorem silent_ofLocal (x : Except Failure α) : Silent (ofLocal x) := Trail.only_of _

/-- What is asked of the web is sent, and not printed. -/
theorem silent_expand (t : Trail Sent Complaint α) : Silent (t.expand fun s => [.sent s]) := by
  refine Trail.only_expand fun s _ e he => ?_
  exact ⟨s, List.mem_singleton.1 he⟩

/-- So nothing remote prints. -/
theorem silent_ofRemote (t : Trail Sent Failure α) : Silent (ofRemote t) := silent_expand _

/-- To say what was being done is part of the complaint. -/
theorem silent_within {what : String} {r : Run α} (h : Silent r) : Silent (within what r) := h

/-- Looking for a replica prints nothing either. -/
theorem silent_findReplica (w : World) (layout : Layout) (url : String) :
    Silent (findReplica w layout url) := silent_expand _

/-- A text that is printed in pieces. -/
theorem printed_append (xs ys : List Event) : printed (xs ++ ys) = printed xs ++ printed ys := by
  unfold printed
  rw [List.filterMap_append, String.join_append]

/-- Nothing printed is the empty text. -/
theorem printed_of_silent {r : Run α} (h : Silent r) : printed r.asked = "" := by
  unfold printed
  rw [List.filterMap_eq_nil_iff.2]
  · rfl
  · intro e he
    obtain ⟨s, rfl⟩ := h e he
    rfl

/-! ## Runs that print all or nothing -/

/-- A run prints nothing if it fails; if it succeeds, what it prints is as `P` says. -/
def Delivers (P : String → Prop) (r : Run Unit) : Prop :=
  match r.outcome with
  | .error _ => Silent r
  | .ok () => P (printed r.asked)

variable {P : String → Prop}

/-- Less may be said of what is printed. -/
theorem Delivers.mono {Q : String → Prop} {r : Run Unit} (h : Delivers P r)
    (hPQ : ∀ out, P out → Q out) : Delivers Q r := by
  unfold Delivers at h ⊢
  cases ho : r.outcome with
  | error c =>
    rw [ho] at h
    exact h
  | ok _ =>
    rw [ho] at h
    exact hPQ _ h

/-- A complaint is printed elsewhere. -/
theorem delivers_complain (what : String) : Delivers P (complain what) := Trail.only_of _

/-- A run may do something silent first. -/
theorem delivers_bind {t : Run α} {f : α → Run Unit} (ht : Silent t)
    (hf : ∀ a, t.outcome = .ok a → Delivers P (f a)) : Delivers P (t >>= f) := by
  unfold Delivers
  cases h : t.outcome with
  | error c =>
    rw [Trail.bind_of_error h]
    exact ht
  | ok a =>
    rw [Trail.bind_of_ok h]
    have hfa := hf a h
    unfold Delivers at hfa
    show match (f a).outcome with
      | .error _ => Silent _
      | .ok () => P (printed (t.asked ++ (f a).asked))
    cases ho : (f a).outcome with
    | error c =>
      rw [ho] at hfa
      intro e he
      rcases List.mem_append.1 he with he | he
      · exact ht e he
      · exact hfa e he
    | ok _ =>
      rw [ho] at hfa
      rw [printed_append, printed_of_silent ht, String.empty_append]
      exact hfa

/-- It may end with printing. -/
theorem delivers_print {text : String} (h : P text) : Delivers P (print text) := by
  show P (String.join [text])
  rwa [show String.join [text] = text from String.empty_append]

/-- It may print twice. -/
theorem delivers_print_print {text more : String} (h : P (text ++ more)) :
    Delivers P (print text >>= fun _ => print more) := by
  show P (String.join [text, more])
  rwa [show String.join [text, more] = text ++ more by simp [String.join]]

/-! ## The commands -/

/-- The whole of what a command has to print, in terms of what it finds. -/
def Complete (w : World) (layout : Layout) : Command → String → Prop
  | .list stratum0, out =>
    ∃ rs, (if stratum0 then Installed.stratum0s w.files layout else Installed.all w.files layout) =
        .ok rs ∧
      out = Report.table ((Installed.sorted rs).map Local.state)
  | .info repo, out =>
    (isUrl repo = true ∧ ∃ r control, (Remote.connect w.web layout repo).outcome = .ok r ∧
      r.endpoint.probed = some control ∧
      out = Report.info r.endpoint.base r.state ++
        Report.unlines [Report.labelled "REST API" (if control then "yes" else "no")]) ∨
    (isUrl repo = false ∧ ∃ r, Local.load w.files layout repo = .ok r ∧
      out = Report.info r.storageRoot r.state ++
        Report.unlines [Report.labelled "Server config" r.conf.path])
  | .replicate url, out =>
    ∃ r, (Remote.connect w.web layout url).outcome = .ok r ∧
      (r.startReplication w.web).outcome = .ok () ∧
      out = Report.unlines
        ["Replication of " ++ r.state.fqrn ++ " started at " ++ r.endpoint.base]
  | .checkReplica url, out =>
    ∃ r home, (Remote.connect w.web layout url).outcome = .ok r ∧
      Local.load w.files layout r.state.fqrn = .ok home ∧
      out = Report.unlines [r.endpoint.base ++ " is a replica of local " ++ home.state.kind.name ++
        " repository " ++ r.state.fqrn]

/-- The success of something local is that of what it is about. -/
theorem outcome_ofLocal_eq_ok_iff {x : Except Failure α} {a : α} :
    (ofLocal x).outcome = .ok a ↔ x = .ok a := Outcome.mapError_eq_ok_iff

/-- So is the success of something remote. -/
theorem outcome_ofRemote_eq_ok_iff {t : Trail Sent Failure α} {a : α} :
    (ofRemote t).outcome = .ok a ↔ t.outcome = .ok a := Outcome.mapError_eq_ok_iff

/-- Saying what was being done changes no success. -/
theorem outcome_within_eq_ok_iff {what : String} {r : Run α} {a : α} :
    (within what r).outcome = .ok a ↔ r.outcome = .ok a := Outcome.mapError_eq_ok_iff

/-- The list is printed when all repositories have been opened. -/
theorem delivers_list (w : World) (layout : Layout) (stratum0 : Bool) :
    Delivers (Complete w layout (.list stratum0)) (list w layout stratum0) := by
  refine delivers_bind (silent_ofLocal _) fun rs hrs => delivers_print ?_
  exact ⟨rs, outcome_ofLocal_eq_ok_iff.1 hrs, rfl⟩

/-- **The report on a repository never breaks off**: for one on the web, because what its last line
says is known since the repository was opened. -/
theorem delivers_info (w : World) (layout : Layout) (repo : String) :
    Delivers (Complete w layout (.info repo)) (info w layout repo) := by
  unfold info
  cases hurl : isUrl repo with
  | true =>
    refine delivers_bind (silent_within (silent_ofRemote _)) fun r hr => ?_
    have hconnect := outcome_ofRemote_eq_ok_iff.1 (outcome_within_eq_ok_iff.1 hr)
    -- The question between the two prints is answered from what is known, and cannot fail.
    obtain ⟨control, hcontrol⟩ := Remote.probed_of_connect hconnect
    rw [Remote.hasControl_of_probed hcontrol]
    exact delivers_print_print (Or.inl ⟨hurl, r, control, hconnect, hcontrol, rfl⟩)
  | false =>
    refine delivers_bind (silent_within (silent_ofLocal _)) fun r hr => ?_
    have hload := outcome_ofLocal_eq_ok_iff.1 (outcome_within_eq_ok_iff.1 hr)
    exact delivers_print_print (Or.inr ⟨hurl, r, hload, rfl⟩)

/-- That a replication has started is printed when it has. -/
theorem delivers_replicate (w : World) (layout : Layout) (url : String) :
    Delivers (Complete w layout (.replicate url)) (replicate w layout url) := by
  refine delivers_bind (silent_within (silent_ofRemote _)) fun r hr => ?_
  have hconnect := outcome_ofRemote_eq_ok_iff.1 (outcome_within_eq_ok_iff.1 hr)
  obtain ⟨control, hcontrol⟩ := Remote.probed_of_connect hconnect
  rw [Remote.hasControl_of_probed hcontrol]
  refine delivers_bind (silent_ofRemote _) fun p hp => ?_
  cases hp
  cases control with
  | false => exact delivers_complain _
  | true =>
    refine delivers_bind (silent_ofRemote _) fun _ hstart => delivers_print ?_
    exact ⟨r, hconnect, outcome_ofRemote_eq_ok_iff.1 hstart, rfl⟩

/-- That something is a replica is printed when both repositories have been opened. -/
theorem delivers_checkReplica (w : World) (layout : Layout) (url : String) :
    Delivers (Complete w layout (.checkReplica url)) (checkReplica w layout url) := by
  refine delivers_bind (silent_findReplica _ _ _) fun r hr => ?_
  have hconnect : (Remote.connect w.web layout url).outcome = .ok r :=
    Outcome.mapError_eq_ok_iff.1 hr
  refine delivers_bind (Trail.only_of _) fun home hhome => delivers_print ?_
  have hload : Local.load w.files layout r.state.fqrn = .ok home :=
    Outcome.mapError_eq_ok_iff.1 hhome
  exact ⟨r, home, hconnect, hload, by rw [Local.fqrn_of_load hload]; rfl⟩

/-- **A command that fails has printed nothing, and one that succeeds all it has to print.** -/
theorem delivers_runCommand (w : World) (layout : Layout) :
    ∀ command, Delivers (Complete w layout command) (runCommand w layout command)
  | .list stratum0 => delivers_list w layout stratum0
  | .info repo => delivers_info w layout repo
  | .replicate url => delivers_replicate w layout url
  | .checkReplica url => delivers_checkReplica w layout url

/-- The layout is read before anything is printed. -/
theorem delivers_run (w : World) (i : Invocation) :
    Delivers (fun out => ∃ layout, Layout.load w.files i.layoutFile = .ok layout ∧
      Complete w layout i.command out) (run w i) := by
  refine delivers_bind (silent_within (silent_ofLocal _)) fun layout hlayout => ?_
  have hload := outcome_ofLocal_eq_ok_iff.1 (outcome_within_eq_ok_iff.1 hlayout)
  exact (delivers_runCommand w layout i.command).mono fun out h => ⟨layout, hload, h⟩

/-! ## Seen from outside -/

/-- Of a run that fails only the complaint is seen. -/
theorem outcome_of_error {r : Run Unit} {c : Complaint} (h : Delivers P r)
    (hfail : r.outcome = .error c) :
    outcome r = { exit := 1, output := "", complaint := complaintLines c, sent := sent r.asked } := by
  unfold Delivers at h
  rw [hfail] at h
  unfold outcome
  rw [hfail, printed_of_silent h]

/-- Of a run that succeeds only the output is seen. -/
theorem outcome_of_ok {r : Run Unit} (h : Delivers P r) (hdone : r.outcome = .ok ()) :
    ∃ out, P out ∧ outcome r = { exit := 0, output := out, complaint := [], sent := sent r.asked } := by
  unfold Delivers at h
  rw [hdone] at h
  refine ⟨printed r.asked, h, ?_⟩
  unfold outcome
  rw [hdone]

/-- **Output is all or nothing.** A run of a command exits with 0 or 1. If it exits with 1 its
output is empty, and if it exits with 0 there is no complaint, and its output is the whole of what
the command has to print, under the layout that its layout file describes. A run that has begun to
print does not fail any more. -/
theorem all_or_nothing {args : List String} {i : Invocation} (hargs : parse args = .run i) :
    ((execute w args).exit = 0 ∨ (execute w args).exit = 1) ∧
    ((execute w args).exit = 1 → (execute w args).output = "") ∧
    ((execute w args).exit = 0 → (execute w args).complaint = [] ∧
      ∃ layout, Layout.load w.files i.layoutFile = .ok layout ∧
        Complete w layout i.command (execute w args).output) ∧
    ∀ text, .printed text ∈ (run w i).asked → (run w i).outcome = .ok () := by
  have hexecute : execute w args = outcome (run w i) := by
    unfold execute
    rw [hargs]
  have hrun := delivers_run w i
  rw [hexecute]
  cases ho : (run w i).outcome with
  | error c =>
    rw [outcome_of_error hrun ho]
    refine ⟨Or.inr rfl, fun _ => rfl, ?_, ?_⟩
    · intro hexit
      cases hexit
    · intro text htext
      unfold Delivers at hrun
      rw [ho] at hrun
      obtain ⟨s, hs⟩ := hrun _ htext
      cases hs
  | ok _ =>
    obtain ⟨out, hcomplete, hout⟩ := outcome_of_ok hrun ho
    rw [hout]
    refine ⟨Or.inl rfl, ?_, fun _ => ⟨rfl, hcomplete⟩, fun _ _ => rfl⟩
    intro hexit
    cases hexit

/-- A web with the manifest of one repository. -/
def publishedWeb : Web where
  routes := [⟨.get, .exactly "http://h/a.org/.cvmfspublished", { body := "Na.org\n".utf8 }⟩]

/-- The report on it is printed to its last line; on another repository, nothing is. -/
theorem all_or_nothing_published :
    (parse ["info", "http://h/a.org"] = .run ⟨none, .info "http://h/a.org"⟩ ∧
      (execute ⟨Files.bare, publishedWeb⟩ ["info", "http://h/a.org"]).complaint = [] ∧
      ∃ layout, Layout.load Files.bare none = .ok layout ∧
        Complete ⟨Files.bare, publishedWeb⟩ layout (.info "http://h/a.org")
          (execute ⟨Files.bare, publishedWeb⟩ ["info", "http://h/a.org"]).output) ∧
    (parse ["info", "http://h/b.org"] = .run ⟨none, .info "http://h/b.org"⟩ ∧
      (execute ⟨Files.bare, publishedWeb⟩ ["info", "http://h/b.org"]).output = "") := by
  have hthere : parse ["info", "http://h/a.org"] = .run ⟨none, .info "http://h/a.org"⟩ := by
    decide +kernel
  have hgone : parse ["info", "http://h/b.org"] = .run ⟨none, .info "http://h/b.org"⟩ := by
    decide +kernel
  obtain ⟨-, -, hall, -⟩ := all_or_nothing (w := ⟨Files.bare, publishedWeb⟩) hthere
  obtain ⟨-, hnothing, -, -⟩ := all_or_nothing (w := ⟨Files.bare, publishedWeb⟩) hgone
  exact ⟨⟨hthere, hall (by decide +kernel)⟩, hgone, hnothing (by decide +kernel)⟩

end Stratum.CommandLine
