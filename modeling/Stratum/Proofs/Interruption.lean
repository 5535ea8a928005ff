import Stratum.Proofs.RemoteOpening
import Stratum.Proofs.Requests

/-!
# Exchanges that break off

A server can hang up instead of answering, and it can send less of an answer than it announced.
What has come then may still look like something: half a manifest is often a manifest, and a marker
that is cut short can be a time. An opening is `Fatal` for such things: none of them is ever read,
and none is taken for an artifact that is missing.

> `webFailed_of_interrupted`: where anything breaks off while a repository is opened, the opening
> fails, and says that the web is to blame.
-/

namespace Stratum

open Text

variable {α β ω χ : Type}

/-- The attempt fails, and what it says is that an exchange on the web failed. -/
def WebFailed (x : Except Failure α) : Prop := ∃ cause, x = .error (.http cause)

/-- No later step mends such a failure. -/
theorem WebFailed.bind {x : Except Failure α} (h : WebFailed x) (f : α → Except Failure β) :
    WebFailed (x >>= f) := by
  obtain ⟨cause, rfl⟩ := h
  exact ⟨cause, rfl⟩

namespace Trail

/-- Where something bad is asked for, the whole fails on the web. -/
def Fatal (bad : ω → Prop) (t : Trail ω Failure α) : Prop :=
  t.Heeds fun q o => bad q → WebFailed o

variable {bad : ω → Prop}

/-- Where nothing is asked for, nothing is bad. -/
theorem fatal_of (x : Except Failure α) : (of x : Trail ω Failure α).Fatal bad := heeds_of x

/-- **What is fatal to each step is fatal to the chain.** -/
theorem fatal_bind {t : Trail ω Failure α} {f : α → Trail ω Failure β} (ht : t.Fatal bad)
    (hf : ∀ a, t.outcome = .ok a → (f a).Fatal bad) : (t >>= f).Fatal bad := by
  refine heeds_bind ht (fun q h hbad => ?_) hf
  rw [outcome_bind]
  exact (h hbad).bind _

/-- What is fatal among the things that others come down to is fatal among these others. -/
theorem fatal_expand {t : Trail ω Failure α} {f : ω → List χ} {bad : χ → Prop}
    (h : t.Fatal fun q => ∃ y ∈ f q, bad y) : (t.expand f).Fatal bad :=
  heeds_expand fun q hq y hy hbad => h q hq ⟨y, hy, hbad⟩

end Trail

/-! ## Discovery -/

namespace Source

variable {s : Source} {bad : String → Prop}

/-- To ask for an artifact is fatal where the source fails on the web. -/
theorem fatal_fetch? (hs : ∀ name, bad name → WebFailed (s.content? name)) (name : String) :
    (s.fetch? name).Fatal bad := by
  intro q hq hbad
  cases List.mem_singleton.1 hq
  rw [outcome_fetch?]
  exact hs _ hbad

/-- So is the reading of the manifest. -/
theorem fatal_manifest (hs : ∀ name, bad name → WebFailed (s.content? name)) (name : String) :
    (s.manifest name).Fatal bad := by
  refine Trail.fatal_bind (fatal_fetch? hs name) fun content _ => ?_
  cases content with
  | none => exact Trail.fatal_of _
  | some content => exact Trail.fatal_of _

/-- So is that of a marker: what cannot be had is not taken for a marker that is missing. -/
theorem fatal_marker? (hs : ∀ name, bad name → WebFailed (s.content? name)) (name : String) :
    (s.marker? name).Fatal bad := by
  refine Trail.fatal_bind (fatal_fetch? hs name) fun content _ => ?_
  cases content with
  | none => exact Trail.fatal_of _
  | some content => exact Trail.fatal_bind (Trail.fatal_of _) fun _ _ => Trail.fatal_of _

/-- **Discovery fails on the web where an artifact that it asks for does.** -/
theorem fatal_discover (hs : ∀ name, bad name → WebFailed (s.content? name)) (layout : Layout)
    (declared : Kind) (version : String) : (s.discover layout declared version).Fatal bad := by
  refine Trail.fatal_bind (fatal_manifest hs _) fun manifest _ => ?_
  refine Trail.fatal_bind (fatal_marker? hs _) fun last _ => ?_
  exact Trail.fatal_bind (fatal_marker? hs _) fun since _ => Trail.fatal_of _

end Source

/-! ## Requests -/

/-- Something that was sent was not answered, or was answered with success and a part of the
body. -/
def Web.Interrupts (w : Web) (s : Sent) : Prop := w.Loses s ∨ w.Curtails s

namespace Endpoint

variable {w : Web} {e : Endpoint}

/-- The outcome of a request accounts for what was sent in it. -/
theorem heeds_request (w : Web) (m : Method) (url : String) :
    (request w m url).Heeds (Client.Accounts w m) := by
  unfold request
  split
  · exact Trail.heeds_of _
  · exact Trail.heeds_mapError (Client.heeds_send w m _) fun _ h => h.mapError _

/-- Whatever is lost is fatal to the request. -/
theorem webFailed_of_loses {m : Method} {url : String} {s : Sent}
    (hs : s ∈ (request w m url).asked) (h : w.Loses s) : WebFailed (request w m url).outcome := by
  obtain ⟨d, hd⟩ := (heeds_request w m url s hs).loses h
  obtain ⟨cause, rfl⟩ := error_of_request hd
  exact ⟨cause, hd⟩

/-- In a request for the head alone nothing else can break off. -/
theorem fatal_head (w : Web) (url : String) : (request w .head url).Fatal w.Interrupts := by
  rintro s hs (hloses | hcurtails)
  · exact webFailed_of_loses hs hloses
  · have hmethod := (heeds_request w .head url s hs).method
    unfold Web.Curtails at hcurtails
    split at hcurtails
    · rcases hmethod _ _ rfl with h | ⟨h, -⟩ <;> cases h
    · exact hcurtails.elim

/-- A request whose answer is not read if it was cut short fails whenever it breaks off. -/
theorem fatal_reading {m : Method} {target : String} {f : Response → Trail Sent Failure α}
    (hasked : (request w m target >>= f).asked = (request w m target).asked)
    (hcut : ∀ r, r.isSuccess = true → r.cut = true → WebFailed (f r).outcome) :
    (request w m target >>= f).Fatal w.Interrupts := by
  intro s hs hbad
  rw [hasked] at hs
  have haccounts := heeds_request w m target s hs
  rw [Trail.outcome_bind]
  cases ho : (request w m target).outcome with
  | error d =>
    obtain ⟨cause, rfl⟩ := error_of_request ho
    exact ⟨cause, rfl⟩
  | ok r =>
    rcases hbad with hloses | hcurtails
    · obtain ⟨d, hd⟩ := haccounts.loses hloses
      rw [ho] at hd
      cases hd
    · obtain ⟨hsuccess, hr⟩ := haccounts.curtails hcurtails r ho
      exact hcut r hsuccess hr

/-- A request for an artifact is one of these. -/
theorem fatal_fetch (w : Web) (e : Endpoint) (name : String) :
    (e.fetch w name).Fatal w.Interrupts := by
  refine fatal_reading (asked_fetch w e name) fun r hsuccess hcut => ?_
  rw [hsuccess, hcut]
  exact ⟨_, rfl⟩

/-- So is one to the control interface. -/
theorem fatal_call (w : Web) (e : Endpoint) (m : Method) (name : String)
    (reader : Json → Option α) : (e.call w m name reader).Fatal w.Interrupts := by
  refine fatal_reading (asked_call w e m name reader) fun r hsuccess hcut => ?_
  rw [hcut]
  split <;> exact ⟨_, rfl⟩

/-- What a server says of itself is not read either if it breaks off. -/
theorem fatal_identify (w : Web) (e : Endpoint) : (e.identify w).Fatal w.Interrupts := by
  refine Trail.fatal_bind ?_ fun told _ => ?_
  · unfold probe
    split
    · exact Trail.fatal_of _
    · exact Trail.fatal_bind (fatal_head w _) fun _ _ => Trail.fatal_of _
  · obtain ⟨available, e'⟩ := told
    show (if _ then _ else _ : Trail Sent Failure (Kind × String × Endpoint)).Fatal _
    split
    · exact Trail.fatal_bind (fatal_call w e' _ _ _) fun _ _ => Trail.fatal_of _
    · exact Trail.fatal_of _

/-- What is learned of an artifact is a failure on the web if the request for it breaks off. -/
theorem webFailed_content? {name : String}
    (h : ∃ s ∈ (e.fetch w name).asked, w.Interrupts s) :
    WebFailed ((e.source w).content? name) := by
  obtain ⟨s, hs, hbad⟩ := h
  obtain ⟨cause, hcause⟩ := fatal_fetch w e name s hs hbad
  refine ⟨cause, ?_⟩
  show Source.orNone (e.fetch w name).outcome = _
  rw [hcause]
  rfl

/-- Where the link is down, every request fails on the web. -/
theorem webFailed_of_down (h : w.up = false) (m : Method) (url : String) :
    WebFailed (request w m url).outcome := by
  unfold request
  split
  · exact ⟨_, rfl⟩
  next u _ =>
    obtain ⟨d, hd⟩ := Client.send_of_down h m u
    refine ⟨d, ?_⟩
    rw [Trail.outcome_mapError, hd]
    rfl

end Endpoint

namespace Remote

variable {w : Web} {layout : Layout} {url : String}

/-- Connecting fails on the web where anything breaks off. -/
theorem fatal_connect (w : Web) (layout : Layout) (url : String) :
    (connect w layout url).Fatal w.Interrupts := by
  refine Trail.fatal_bind (Trail.fatal_of _) fun e _ => ?_
  refine Trail.fatal_bind (Endpoint.fatal_identify w e) fun told _ => ?_
  obtain ⟨kind, version, e'⟩ := told
  refine Trail.fatal_bind (Trail.fatal_expand ?_) fun _ _ => Trail.fatal_of _
  exact Source.fatal_discover (fun name => Endpoint.webFailed_content?) layout kind version

/-- It fails so where the link is down, for the first thing that is asked fails. -/
theorem webFailed_connect_of_down (h : w.up = false) {e : Endpoint}
    (hurl : Endpoint.ofUrl url layout = .ok e) : WebFailed (connect w layout url).outcome := by
  rw [outcome_connect, hurl, Outcome.ok_bind, Endpoint.outcome_identify (probed_of_ofUrl hurl)]
  exact ((Endpoint.webFailed_of_down h _ _).bind _).bind _

/-- **What breaks off is never taken for an answer.** If the link is down, if anything that is sent
while a repository is opened is lost, or if any GET among it is answered with success but with a
part of the body, the opening fails, and says that the web is to blame; so there is no state that
was made of what did come, and neither the repository nor an artifact of it is called missing. -/
theorem webFailed_of_interrupted
    (h : (w.up = false ∧ ∃ e, Endpoint.ofUrl url layout = .ok e) ∨
      ∃ s ∈ (connect w layout url).asked, w.Loses s ∨ w.Curtails s) :
    ∃ cause, (connect w layout url).outcome = .error (.http cause) := by
  rcases h with ⟨hdown, e, hurl⟩ | ⟨s, hs, hbad⟩
  · exact webFailed_connect_of_down hdown hurl
  · exact fatal_connect w layout url s hs hbad

/-- A server that breaks off behind the first line of a marker. -/
def haltingWeb : Web where
  routes :=
    [⟨.get, .exactly "http://h/a.org/.cvmfspublished", { body := "Na.org\n".utf8 }⟩,
      ⟨.get, .exactly "http://h/a.org/.cvmfs_last_snapshot",
        { body := "2020-01-01T00:00:00Z\n".utf8, breakage := some .body }⟩]

/-- The line that came is a time, but it is not taken for one. -/
theorem webFailed_of_interrupted_marker :
    .request .get "http://h/a.org/.cvmfs_last_snapshot" ∈
      (connect haltingWeb {} "http://h/a.org").asked ∧
    (Source.readMarker "2020-01-01T00:00:00Z\n".utf8).isOk = true ∧
    ∃ cause, (connect haltingWeb {} "http://h/a.org").outcome = .error (.http cause) := by
  have hasked : .request .get "http://h/a.org/.cvmfs_last_snapshot" ∈
      (connect haltingWeb {} "http://h/a.org").asked := by decide +kernel
  have hcut : haltingWeb.Curtails (.request .get "http://h/a.org/.cvmfs_last_snapshot") := by
    show _ ∧ _ ∧ _
    decide +kernel
  refine ⟨hasked, by decide +kernel, ?_⟩
  exact webFailed_of_interrupted (Or.inr ⟨_, hasked, Or.inr hcut⟩)

end Remote

end Stratum
