import Stratum.Proofs.RemoteOpening
import Stratum.Session

/-!
# What a session keeps

Between the steps of a session files come and go and servers change their answers, but a repository
that has been opened is a value. A step can change what is kept under a name in two ways only, which
are the cases of `Change`: it opens a repository under that name, or it asks for the control
interface of the one that is there. The second changes nothing, because an opened repository knows
its control interface, and that is the invariant `Holds`: kept, and known.

> `holds_step`, `holds_after`: no step but an opening changes what is kept under a name, and so no
> number of steps does.
> `answers_of_opened`: what a session answers about a repository is what it answered when the
> repository was opened, and none of these answers needs a request.
-/

namespace Stratum

/-- Whether a step opens a repository under a name. -/
def Step.opens (name : String) : Step → Bool
  | .openLocal n _ => n == name
  | .openRemote n _ => n == name
  | _ => false

/-- Whether everything is known of a repository that can be asked for without its artifacts. -/
def Opened.Known : Opened → Prop
  | .home _ => True
  | .remote r => ∃ b, r.endpoint.probed = some b

namespace Session

variable {s : Session} {a : Step} {name : String} {r : Opened}

/-! ## Steps -/

/-- The session after some steps. -/
def after (s : Session) (as : List Step) : Session := as.foldl (fun s a => (s.step a).2) s

/-- What is played after some steps is what the session after them plays. -/
theorem play_append (s : Session) (as bs : List Step) :
    s.play (as ++ bs) = s.play as ++ (s.after as).play bs := by
  induction as generalizing s with
  | nil => rfl
  | cons a as ih => exact congrArg ((s.step a).1 :: ·) (ih (s.step a).2)

/-- All that a step can do to what a session keeps: `s'` is the session after it. -/
inductive Change (s : Session) (a : Step) : StepEnd × Session → Prop
  | none {ended : StepEnd} {s' : Session} (h : s'.opened = s.opened) : Change s a (ended, s')
  | opening {n : String} {r : Opened} {sent : List Sent} (h : a.opens n = true) :
    Change s a (⟨some (.ok (.opened r)), sent⟩, s.keep n r)
  | asking {n : String} {r r' : Remote} {b : Bool} {ended : StepEnd}
    (found : s.find? n = some (.remote r))
    (h : (r.hasControl s.world.web).outcome = .ok (b, r')) :
    Change s a (ended, s.keep n (.remote r'))

/-- A step that is done to an open repository changes what it changes there, or nothing. -/
theorem change_withOpened {f : Opened → StepEnd × Session}
    (h : ∀ r, s.find? name = some r → Change s a (f r)) : Change s a (s.withOpened name f) := by
  unfold withOpened
  cases hfind : s.find? name with
  | none => exact .none rfl
  | some r => exact h r hfind

/-- So does one that is done to an open repository on the web. -/
theorem change_withRemote {f : Remote → StepEnd × Session}
    (h : ∀ r, s.find? name = some (.remote r) → Change s a (f r)) :
    Change s a (s.withRemote name f) := by
  refine change_withOpened fun r hr => ?_
  cases r with
  | home r => exact .none rfl
  | remote r => exact h r hr

/-- **Nothing else happens to what a session keeps.** -/
theorem change_step (s : Session) (a : Step) : Change s a (s.step a) := by
  cases a with
  | openLocal n fqrn =>
    show Change s _ (s.openLocal n fqrn)
    unfold openLocal
    cases Local.load s.world.files s.layout fqrn with
    | error e => exact .none rfl
    | ok r => exact .opening (beq_self_eq_true n)
  | openRemote n url =>
    show Change s _ (s.openRemote n url)
    unfold openRemote
    cases h : (Remote.connect s.world.web s.layout url).outcome with
    | error e =>
      simp only [h]
      exact .none rfl
    | ok r =>
      simp only [h]
      exact .opening (beq_self_eq_true n)
  | hasControl n =>
    refine change_withRemote fun r hr => ?_
    unfold hasControl
    cases h : (r.hasControl s.world.web).outcome with
    | error e =>
      simp only [h]
      exact .none rfl
    | ok p =>
      simp only [h]
      exact .asking hr h
  | state n => exact change_withOpened fun _ _ => .none rfl
  | retrieve n artifact => exact change_withOpened fun _ _ => .none rfl
  | serverConf n field =>
    refine change_withOpened fun r _ => ?_
    cases r <;> exact .none rfl
  | startReplication n => exact change_withRemote fun _ _ => .none rfl
  | control n method path => exact change_withRemote fun _ _ => .none rfl
  | summary n => exact change_withOpened fun _ _ => .none rfl
  | info n => exact change_withOpened fun _ _ => .none rfl
  | table n => exact change_withOpened fun _ _ => .none rfl
  | installed stratum0 => exact .none rfl
  | put path entry => exact .none rfl
  | remove path => exact .none rfl
  | addRoute route => exact .none rfl
  | dropRoute m url => exact .none rfl
  | command args => exact .none rfl

/-! ## What is kept -/

/-- A known repository is kept under a name. -/
structure Holds (s : Session) (name : String) (r : Opened) : Prop where
  found : s.find? name = some r
  known : r.Known

/-- **A step that opens nothing under a name leaves what is kept there.** An opening that fails is
such a step, too. -/
theorem holds_step (h : s.Holds name r)
    (hkept : a.opens name = true → ∃ e, (s.step a).1.result = some (.error e)) :
    (s.step a).2.Holds name r := by
  have hchange := change_step s a
  generalize s.step a = ended at hchange hkept
  cases hchange with
  | none hsame =>
    refine ⟨?_, h.known⟩
    unfold find?
    rw [hsame]
    exact h.found
  | @opening n r' sent hopens =>
    refine ⟨?_, h.known⟩
    rw [find?_keep]
    by_cases hn : name = n
    · -- then the step has opened something under the name, and has not failed
      obtain ⟨e, he⟩ := hkept (hn ▸ hopens)
      cases he
    · rw [if_neg hn, h.found]
  | @asking n q q' b ended found hask =>
    refine ⟨?_, h.known⟩
    rw [find?_keep]
    by_cases hn : name = n
    · subst hn
      rw [h.found] at found
      cases found
      obtain ⟨b', hb⟩ := h.known
      rw [Remote.hasControl_of_probed hb] at hask
      cases hask
      rw [if_pos rfl]
    · rw [if_neg hn, h.found]

/-- **So do any number of such steps.** -/
theorem holds_after {as : List Step} (h : s.Holds name r)
    (hkept : ∀ p ∈ as.zip (s.play as), p.1.opens name = true →
      ∃ e, p.2.result = some (.error e)) : (s.after as).Holds name r := by
  induction as generalizing s with
  | nil => exact h
  | cons a as ih =>
    have hstep := holds_step h (hkept (a, (s.step a).1) List.mem_cons_self)
    exact ih hstep fun p hp => hkept p (List.mem_cons_of_mem _ hp)

/-! ## Openings -/

/-- Where a repository is opened under a name, it is kept there, and it is what has been loaded or
connected to. -/
theorem eq_keep_of_opened {s' : Session} {sent : List Sent} (hopens : a.opens name = true)
    (h : s.step a = (⟨some (.ok (.opened r)), sent⟩, s')) :
    s' = s.keep name r ∧
    ((∃ home, r = .home home) ∨
      ∃ url remote, a = .openRemote name url ∧ r = .remote remote ∧
        (Remote.connect s.world.web s.layout url).outcome = .ok remote) := by
  cases a with
  | openLocal n fqrn =>
    obtain rfl : n = name := eq_of_beq hopens
    change s.openLocal n fqrn = _ at h
    unfold openLocal at h
    cases hload : Local.load s.world.files s.layout fqrn with
    | error e =>
      rw [hload] at h
      cases h
    | ok home =>
      rw [hload] at h
      cases h
      exact ⟨rfl, Or.inl ⟨home, rfl⟩⟩
  | openRemote n url =>
    obtain rfl : n = name := eq_of_beq hopens
    change s.openRemote n url = _ at h
    unfold openRemote at h
    cases hconnect : (Remote.connect s.world.web s.layout url).outcome with
    | error e =>
      simp only [hconnect] at h
      cases h
    | ok remote =>
      simp only [hconnect] at h
      cases h
      exact ⟨rfl, Or.inr ⟨url, remote, rfl, rfl, hconnect⟩⟩
  | _ => cases hopens

/-- What is opened under a name is kept there, and known. -/
theorem holds_of_opened {s' : Session} {sent : List Sent} (hopens : a.opens name = true)
    (h : s.step a = (⟨some (.ok (.opened r)), sent⟩, s')) : s'.Holds name r := by
  obtain ⟨rfl, hr⟩ := eq_keep_of_opened hopens h
  refine ⟨by rw [find?_keep, if_pos rfl], ?_⟩
  rcases hr with ⟨home, rfl⟩ | ⟨url, remote, -, rfl, hconnect⟩
  · trivial
  · exact Remote.probed_of_connect hconnect

/-- What is known of the control interface was found out when the repository was opened. -/
theorem probe_of_opened {s' : Session} {sent : List Sent} {remote : Remote}
    (hopens : a.opens name = true)
    (h : s.step a = (⟨some (.ok (.opened (.remote remote))), sent⟩, s')) :
    ∃ url e probe, a = .openRemote name url ∧ Endpoint.ofUrl url s.layout = .ok e ∧
      (Endpoint.request s.world.web .head (e.controlUrl "info")).outcome = .ok probe ∧
      remote.endpoint.probed = some (probe.status == 200) := by
  obtain ⟨-, ⟨home, hr⟩ | ⟨url, r, hopening, hr, hconnect⟩⟩ := eq_keep_of_opened hopens h
  · cases hr
  · cases hr
    obtain ⟨e, probe, he, hprobe, hendpoint⟩ := Remote.endpoint_of_connect hconnect
    refine ⟨url, e, probe, hopening, he, hprobe, ?_⟩
    rw [hendpoint]
    rfl

/-! ## What is answered -/

/-- The answers about a repository that is kept are taken from it, and need no request. -/
theorem Holds.answers (h : s.Holds name r) :
    (s.step (.state name)).1 = ⟨some (.ok (.opened r)), []⟩ ∧
    (s.step (.summary name)).1 = ⟨some (.ok (.text (Report.summary r.state))), []⟩ ∧
    (s.step (.info name)).1 = ⟨some (.ok (.text (Report.info r.location r.state))), []⟩ := by
  simp only [step, withOpened, h.found, answer, and_self]

/-- So is the answer to the question for its control interface. -/
theorem Holds.hasControl {remote : Remote} {b : Bool} (h : s.Holds name (.remote remote))
    (hb : remote.endpoint.probed = some b) :
    (s.step (.hasControl name)).1 = ⟨some (.ok (.truth b)), []⟩ := by
  simp only [step, withRemote, withOpened, h.found, Session.hasControl,
    Remote.hasControl_of_probed hb, Trail.outcome_pure, Trail.asked_pure]

/-- The last thing that comes of steps and one more is what comes of that one behind the others. -/
theorem getLast?_play (s : Session) (as : List Step) (a : Step) :
    (s.play (as ++ [a])).getLast? = some ((s.after as).step a).1 := by
  rw [play_append]
  exact List.getLast?_concat

/-- **What a session answers about a repository stays what it was when the repository was
opened.** Let a repository be opened under a name, and let any steps follow of which none opens
another one under that name. Then the state, the summary and the report that are asked for are
those of the repository as it was opened; and if it is one on the web, the question for its
control interface is answered as the probe was that was made when it was opened. None of these
answers can fail, and none needs a request. -/
theorem answers_of_opened {s s' : Session} {opening : Step} {name : String} {r : Opened}
    {sent : List Sent} (hopens : opening.opens name = true)
    (hopened : s.step opening = (⟨some (.ok (.opened r)), sent⟩, s')) {later : List Step}
    (hkept : ∀ p ∈ later.zip (s'.play later), p.1.opens name = true →
      ∃ e, p.2.result = some (.error e)) :
    let answered (question : Step) := (s'.play (later ++ [question])).getLast?
    answered (.state name) = some ⟨some (.ok (.opened r)), []⟩ ∧
    answered (.summary name) = some ⟨some (.ok (.text (Report.summary r.state))), []⟩ ∧
    answered (.info name) = some ⟨some (.ok (.text (Report.info r.location r.state))), []⟩ ∧
    ∀ remote, r = .remote remote →
      ∃ url e probe, opening = .openRemote name url ∧ Endpoint.ofUrl url s.layout = .ok e ∧
        (Endpoint.request s.world.web .head (e.controlUrl "info")).outcome = .ok probe ∧
        answered (.hasControl name) = some ⟨some (.ok (.truth (probe.status == 200))), []⟩ := by
  intro answered
  have hholds : (s'.after later).Holds name r := holds_after (holds_of_opened hopens hopened) hkept
  obtain ⟨hstate, hsummary, hinfo⟩ := hholds.answers
  refine ⟨?_, ?_, ?_, ?_⟩
  · exact (getLast?_play _ _ _).trans (congrArg some hstate)
  · exact (getLast?_play _ _ _).trans (congrArg some hsummary)
  · exact (getLast?_play _ _ _).trans (congrArg some hinfo)
  · rintro remote rfl
    obtain ⟨url, e, probe, hopening, he, hprobe, hprobed⟩ := probe_of_opened hopens hopened
    refine ⟨url, e, probe, hopening, he, hprobe, ?_⟩
    exact (getLast?_play _ _ _).trans (congrArg some (hholds.hasControl hprobed))

/-- Whether openings under a name have failed can be told by looking at what came of each step. -/
theorem error_of_all {name : String} {ended : List (Step × StepEnd)}
    (h : ended.all (fun p => !p.1.opens name || p.2.result.any (!·.isOk)) = true) :
    ∀ p ∈ ended, p.1.opens name = true → ∃ e, p.2.result = some (.error e) := by
  intro p hp hopens
  have hfail := List.all_eq_true.1 h p hp
  rw [hopens] at hfail
  obtain ⟨x, hx, herror⟩ := (Option.any_eq_true _ _).1 hfail
  cases x with
  | error e => exact ⟨e, hx⟩
  | ok a => cases herror

/-- A session on a web with one repository, whose server has no control interface. -/
def visiting : Session where
  world := {
    files := Files.bare
    web := { routes := [⟨.get, .exactly "http://h/a.org/.cvmfspublished", { body := "Na.org\n".utf8 }⟩] } }
  layout := {}

/-- That repository, as it is opened. -/
def visited : Remote where
  endpoint := { base := "http://h/a.org", connector := "control", probed := some false }
  state := {
    fqrn := "a.org"
    kind := .unknown
    version := "unknown"
    manifest := {
      repositoryName := "a.org", rootCatalog := none, rootHash := none, rootCatalogSize := none
      certificate := none, historyDatabase := none, lastModified := none, ttl := none
      revision := none, garbageCollectable := false, other := Text.CharMap.empty }
    lastReplication := .epoch
    replicatingSince := none }

/-- A control interface appears, is asked for and fails; the manifest goes away, and opening the
repository again fails. -/
def turmoil : List Step :=
  [.addRoute ⟨.head, .exactly "http://h/a.org/control/info", {}⟩, .hasControl "a",
    .startReplication "a", .dropRoute .get "http://h/a.org/.cvmfspublished",
    .openRemote "a" "http://h/a.org"]

/-- After all this the repository is still the one that was opened, and has no control interface. -/
theorem answers_of_opened_turmoil :
    let s' := visiting.keep "a" (.remote visited)
    visiting.step (.openRemote "a" "http://h/a.org") =
      (⟨some (.ok (.opened (.remote visited))),
        (Remote.connect visiting.world.web {} "http://h/a.org").asked⟩, s') ∧
    (s'.play (turmoil ++ [.state "a"])).getLast? =
      some ⟨some (.ok (.opened (.remote visited))), []⟩ ∧
    (s'.play (turmoil ++ [.hasControl "a"])).getLast? = some ⟨some (.ok (.truth false)), []⟩ := by
  intro s'
  have hconnect : (Remote.connect visiting.world.web {} "http://h/a.org").outcome = .ok visited := by
    have hparts : (Remote.connect visiting.world.web {} "http://h/a.org").outcome.map
        (fun r => (r.endpoint, r.state)) = .ok (visited.endpoint, visited.state) := by
      decide +kernel
    obtain ⟨⟨endpoint, state⟩, hr, hparts⟩ := Outcome.map_eq_ok_iff.1 hparts
    obtain ⟨rfl, rfl⟩ := Prod.mk.inj hparts
    exact hr
  have hopened : visiting.step (.openRemote "a" "http://h/a.org") =
      (⟨some (.ok (.opened (.remote visited))),
        (Remote.connect visiting.world.web {} "http://h/a.org").asked⟩, s') := by
    show visiting.openRemote "a" "http://h/a.org" = _
    unfold openRemote
    rw [show visiting.layout = {} from rfl]
    simp only [hconnect]
    rfl
  have hkept : ∀ p ∈ turmoil.zip (s'.play turmoil), p.1.opens "a" = true →
      ∃ e, p.2.result = some (.error e) := error_of_all (by decide +kernel)
  obtain ⟨hstate, -, -, hcontrol⟩ := answers_of_opened rfl hopened hkept
  obtain ⟨url, e, probe, hopening, he, hprobe, hanswer⟩ := hcontrol visited rfl
  injection hopening with _ hname
  subst hname
  have hurl : Endpoint.ofUrl "http://h/a.org" {} = .ok ⟨"http://h/a.org", "control", none⟩ := by
    decide +kernel
  have hstatus : (Endpoint.request visiting.world.web .head
      (Endpoint.controlUrl ⟨"http://h/a.org", "control", none⟩ "info")).outcome.map (·.status) =
        .ok 404 := by decide +kernel
  have he : e = ⟨"http://h/a.org", "control", none⟩ := Except.ok.inj (he.symm.trans hurl)
  rw [he] at hprobe
  rw [hprobe] at hstatus
  have hprobe404 : probe.status = 404 := Except.ok.inj hstatus
  rw [hprobe404] at hanswer
  exact ⟨hopened, hstate, hanswer⟩

end Session

end Stratum
