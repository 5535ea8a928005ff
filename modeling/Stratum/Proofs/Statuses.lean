import Stratum.Proofs.Interruption
import Stratum.Proofs.Tokens
import Stratum.Proofs.Verdict

/-!
# Which statuses are trusted

An artifact is taken from an answer with a status of success, 200 to 299, and from no other. The
answer to a control request is looked at from the other side: it is thrown away if its status says
that somebody failed, 400 to 599. In between, and beyond, is room for statuses that say neither: a
redirect that leads nowhere, a number that nobody has given a meaning. Such an answer is no
artifact, but whatever JSON is in it is believed.

> `insists_iff`: a control request insists on success exactly where the status of its answer is one
> of success or of failure, or where the answer is cut short anyway.
> `believed_multipleChoices`: the kind of a repository, its version and the start of a replication,
> all believed under the status 300.
-/

namespace Stratum

open Text

variable {α β : Type}

/-- There is no doubt about an answer: its status says that the request succeeded or that it failed,
or a part of it is missing. -/
def Response.Settled (r : Response) : Prop :=
  r.isSuccess = true ∨ r.isRefusal = true ∨ r.cut = true

/-- An attempt that was answered so insists on success: without it, it fails on the web. -/
def Insists (r : Response) (x : Except Failure α) : Prop := r.isSuccess = false → WebFailed x

/-! ## Failures on the web -/

theorem not_webFailed_ok (a : α) : ¬WebFailed (.ok a) := by
  intro h
  obtain ⟨cause, h⟩ := h
  cases h

/-- A failure of the web is one of HTTP. -/
theorem webFailed_error_iff {d : Failure} :
    WebFailed (.error d : Except Failure α) ↔ ∃ cause, d = .http cause := by
  constructor
  · intro h
    obtain ⟨cause, h⟩ := h
    exact ⟨cause, Except.error.inj h⟩
  · intro h
    obtain ⟨cause, h⟩ := h
    exact ⟨cause, congrArg Except.error h⟩

/-- A step that cannot fail on the web adds no such failure. -/
theorem webFailed_bind_iff {x : Except Failure α} {f : α → Except Failure β}
    (hf : ∀ a, ¬WebFailed (f a)) : WebFailed (x >>= f) ↔ WebFailed x := by
  cases x with
  | error d => rw [Outcome.error_bind, webFailed_error_iff, webFailed_error_iff]
  | ok a => exact iff_of_false (hf a) (not_webFailed_ok a)

/-- What is made of a result does not matter. -/
theorem webFailed_map_iff {x : Except Failure α} {f : α → β} :
    WebFailed (x.map f) ↔ WebFailed x := by
  cases x with
  | error d =>
    show WebFailed (.error d) ↔ _
    rw [webFailed_error_iff, webFailed_error_iff]
  | ok a => exact iff_of_false (not_webFailed_ok _) (not_webFailed_ok a)

namespace Endpoint

variable {w : Web} {e : Endpoint}

/-! ## Control answers -/

/-- Of all answers only a refusal and one that is cut short are failures on the web; what cannot be
read is a failure of another sort. -/
theorem webFailed_readReply_iff {reader : Json → Option α} {r : Response} :
    WebFailed (readReply reader r) ↔ r.isRefusal = true ∨ r.cut = true := by
  unfold readReply
  by_cases hrefusal : r.isRefusal = true
  · rw [if_pos hrefusal]
    exact iff_of_true ⟨_, rfl⟩ (Or.inl hrefusal)
  rw [if_neg hrefusal]
  by_cases hcut : r.cut = true
  · rw [if_pos hcut]
    exact iff_of_true ⟨_, rfl⟩ (Or.inr hcut)
  rw [if_neg hcut]
  have hneither : ¬(r.isRefusal = true ∨ r.cut = true) := by
    intro h
    rcases h with h | h
    · exact hrefusal h
    · exact hcut h
  refine iff_of_false ?_ hneither
  cases Json.decode? reader r.body with
  | some a => exact not_webFailed_ok a
  | none =>
    rw [webFailed_error_iff]
    intro h
    obtain ⟨cause, h⟩ := h
    cases h

/-- An answer is insisted on exactly if it is settled. -/
theorem insists_readReply_iff {reader : Json → Option α} {r : Response} :
    Insists r (readReply reader r) ↔ r.Settled := by
  unfold Insists Response.Settled
  rw [webFailed_readReply_iff]
  cases r.isSuccess with
  | true => simp
  | false => simp

/-- So is the answer to a call. -/
theorem insists_call_iff {m : Method} {name : String} {reader : Json → Option α} {r : Response}
    (h : (request w m (e.controlUrl name)).outcome = .ok r) :
    Insists r (e.call w m name reader).outcome ↔ r.Settled := by
  rw [outcome_call, h, Outcome.ok_bind]
  exact insists_readReply_iff

/-- What is made of the answer to `info` is made of it only if it is believed. -/
theorem insists_identify_iff {probe r : Response} (hprobed : e.probed = none)
    (hprobe : (request w .head (e.controlUrl "info")).outcome = .ok probe)
    (hstatus : probe.status = 200)
    (h : (request w .get (e.controlUrl "info")).outcome = .ok r) :
    Insists r (e.identify w).outcome ↔ r.Settled := by
  have hreading : Insists r (readReply Control.Info.ofJson? r) ↔ r.Settled :=
    insists_readReply_iff
  unfold Insists at *
  rw [outcome_identify hprobed, hprobe, Outcome.ok_bind, if_pos hstatus, h, Outcome.ok_bind,
    webFailed_map_iff]
  exact hreading

/-- An artifact comes from an answer of success only. -/
theorem success_of_fetch {name : String} {r : Response} {content : Bytes}
    (h : (request w .get (e.artifactUrl name)).outcome = .ok r)
    (hcontent : (e.fetch w name).outcome = .ok content) : r.isSuccess = true := by
  unfold fetch at hcontent
  rw [Trail.outcome_bind, h, Outcome.ok_bind] at hcontent
  cases hsuccess : r.isSuccess with
  | true => rfl
  | false =>
    rw [hsuccess] at hcontent
    cases hcontent

end Endpoint

namespace Remote

variable {w : Web}

/-- What is made of the answer to an order is made of it only if it is believed. -/
theorem insists_startReplication_iff {repo : Remote} {r : Response}
    (h : (Endpoint.request w .post (repo.endpoint.controlUrl "replicate")).outcome = .ok r) :
    Insists r (repo.startReplication w).outcome ↔ r.Settled := by
  have hreading : Insists r (Endpoint.readReply Control.Reply.ofJson? r) ↔ r.Settled :=
    Endpoint.insists_readReply_iff
  unfold Insists at *
  rw [outcome_startReplication, h, Outcome.ok_bind]
  unfold Endpoint.verdict
  rw [webFailed_bind_iff]
  · exact hreading
  · intro reply
    by_cases hok : reply.isOk = true
    · rw [if_pos hok]
      exact not_webFailed_ok ()
    · rw [if_neg hok, webFailed_error_iff]
      intro h
      obtain ⟨cause, h⟩ := h
      cases h

end Remote

namespace Endpoint

/-- **When a control request insists on success**: exactly if the status of its answer is one of
success or of failure, or if the answer is cut short. That is so for any request and any reading of
its answer, for an order to replicate, and for the question of an opening for what the server says
of itself. The request for an artifact insists on success whatever the status. -/
theorem insists_iff (w : Web) (e : Endpoint) :
    (∀ (α : Type) (reader : Json → Option α) (m : Method) (name : String) (r : Response),
      (request w m (e.controlUrl name)).outcome = .ok r →
      (Insists r (e.call w m name reader).outcome ↔ r.Settled)) ∧
    (∀ (state : State) (r : Response),
      (request w .post (e.controlUrl "replicate")).outcome = .ok r →
      (Insists r ((Remote.mk e state).startReplication w).outcome ↔ r.Settled)) ∧
    (∀ (layout : Layout) (url : String) (probe r : Response), ofUrl url layout = .ok e →
      (request w .head (e.controlUrl "info")).outcome = .ok probe → probe.status = 200 →
      (request w .get (e.controlUrl "info")).outcome = .ok r →
      (Insists r (e.identify w).outcome ↔ r.Settled) ∧
        (r.Settled → Insists r (Remote.connect w layout url).outcome)) ∧
    ∀ (name : String) (r : Response) (content : Bytes),
      (request w .get (e.artifactUrl name)).outcome = .ok r →
      (e.fetch w name).outcome = .ok content → r.isSuccess = true := by
  refine ⟨?_, ?_, ?_, ?_⟩
  · intro α reader m name r h
    exact insists_call_iff h
  · intro state r h
    have hrepo : (request w .post ((Remote.mk e state).endpoint.controlUrl "replicate")).outcome =
        .ok r := h
    exact Remote.insists_startReplication_iff hrepo
  · intro layout url probe r hurl hprobe hstatus h
    have hidentify := insists_identify_iff (Remote.probed_of_ofUrl hurl) hprobe hstatus h
    refine ⟨hidentify, ?_⟩
    -- What fails before discovery has failed for the opening as a whole.
    intro hsettled hfailed
    rw [Remote.outcome_connect, hurl, Outcome.ok_bind]
    exact (hidentify.2 hsettled hfailed).bind _
  · intro name r content h hcontent
    exact success_of_fetch h hcontent

/-! ## An answer that is believed -/

/-- What a server says of itself that offers several choices. -/
def choicesInfo : Bytes := "\x7b\"type\":\"stratum0\",\"version\":\"9\"\x7d".utf8

/-- What it says to an order. -/
def choicesReply : Bytes := "\x7b\"result\":\"ok\"\x7d".utf8

/-- That server answers control requests with the status 300, and one with the status 503. -/
def choicesWeb : Web where
  routes :=
    [⟨.head, .exactly "http://h/a.org/control/info", {}⟩,
      ⟨.get, .exactly "http://h/a.org/control/info", { status := 300, body := choicesInfo }⟩,
      ⟨.post, .exactly "http://h/a.org/control/replicate", { status := 300, body := choicesReply }⟩,
      ⟨.post, .exactly "http://h/a.org/control/stop", { status := 503, body := choicesReply }⟩,
      ⟨.get, .exactly "http://h/a.org/.cvmfspublished", { body := "Na.org\n".utf8 }⟩]

/-- The place of the repository there. -/
def choicesEndpoint : Endpoint := ⟨"http://h/a.org", "control", none⟩

/-- Where the status says that the server failed, its `ok` is not believed. -/
theorem insists_iff_unavailable :
    (∃ r, (request choicesWeb .post (choicesEndpoint.controlUrl "stop")).outcome = .ok r ∧
      r.isSuccess = false ∧ r.body = choicesReply) ∧
    ∃ cause, (choicesEndpoint.call choicesWeb .post "stop" Control.Reply.ofJson?).outcome =
      .error (.http cause) := by
  have hanswer : (request choicesWeb .post (choicesEndpoint.controlUrl "stop")).outcome.map
      (fun r => (r.isSuccess, r.isRefusal, r.body)) = .ok (false, true, choicesReply) := by
    decide +kernel
  obtain ⟨r, h, hr⟩ := Outcome.map_eq_ok_iff.1 hanswer
  obtain ⟨hsuccess, hrefusal, hbody⟩ :
      r.isSuccess = false ∧ r.isRefusal = true ∧ r.body = choicesReply := by simpa using hr
  refine ⟨⟨r, h, hsuccess, hbody⟩, ?_⟩
  have hinsists := ((insists_iff choicesWeb choicesEndpoint).1 _ Control.Reply.ofJson? _ _ r h).2
    (Or.inr (Or.inl hrefusal))
  exact hinsists hsuccess

/-- What it says of itself is read, and so is what it says to an order. -/
theorem choices_read :
    Json.decode? Control.Info.ofJson? choicesInfo = some ⟨"stratum0", "9"⟩ ∧
    Json.decode? Control.Reply.ofJson? choicesReply = some ⟨some "ok"⟩ := by
  unfold Json.decode? Json.ofBytes?
  rw [← Json.tokensWithin?_eq (Nat.le_refl _), ← Json.tokensWithin?_eq (Nat.le_refl _)]
  decide +kernel

/-- Its repository can be opened, and is what the server says. -/
theorem connect_choicesWeb :
    ∃ repo, (Remote.connect choicesWeb {} "http://h/a.org").outcome = .ok repo ∧
      repo.state.kind = .stratum0 ∧ repo.state.version = "9" ∧
      repo.endpoint = choicesEndpoint.probedAs true := by
  have hurl : ofUrl "http://h/a.org" {} = .ok choicesEndpoint := by decide +kernel
  have hhead : (request choicesWeb .head (choicesEndpoint.controlUrl "info")).outcome.map
      (·.status) = .ok 200 := by decide +kernel
  have hinfo : (request choicesWeb .get (choicesEndpoint.controlUrl "info")).outcome.map
      (fun r => (r.isRefusal, r.cut, r.body)) = .ok (false, false, choicesInfo) := by
    decide +kernel
  obtain ⟨probe, hprobe, hstatus⟩ := Outcome.map_eq_ok_iff.1 hhead
  obtain ⟨r, hget, hr⟩ := Outcome.map_eq_ok_iff.1 hinfo
  obtain ⟨hrefusal, hcut, hbody⟩ :
      r.isRefusal = false ∧ r.cut = false ∧ r.body = choicesInfo := by simpa using hr
  have hreply := readReply_eq_ok_iff.2 ⟨hrefusal, hcut, hbody ▸ choices_read.1⟩
  have hidentify : (choicesEndpoint.identify choicesWeb).outcome =
      .ok (.stratum0, "9", choicesEndpoint.probedAs true) := by
    rw [outcome_identify rfl, hprobe, Outcome.ok_bind, if_pos hstatus, hget, Outcome.ok_bind,
      hreply]
    rfl
  have hdiscover : (((choicesEndpoint.probedAs true).source choicesWeb).discover {} .stratum0
      "9").outcome.map (fun state => (state.kind, state.version)) = .ok (.stratum0, "9") := by
    decide +kernel
  obtain ⟨state, hstate, hboth⟩ := Outcome.map_eq_ok_iff.1 hdiscover
  obtain ⟨hkind, hversion⟩ := Prod.mk.inj hboth
  refine ⟨⟨choicesEndpoint.probedAs true, state⟩, ?_, hkind, hversion, rfl⟩
  rw [Remote.outcome_connect, hurl, Outcome.ok_bind, hidentify, Outcome.ok_bind, hstate]
  rfl

/-- Several choices are no success, and the JSON that comes with them is believed all the same: for
the kind and the version of a repository when it is opened, and for the start of a replication. The
very same answer is no artifact. -/
theorem believed_multipleChoices :
    (∃ info order,
      (request choicesWeb .get (choicesEndpoint.controlUrl "info")).outcome = .ok info ∧
      (request choicesWeb .post (choicesEndpoint.controlUrl "replicate")).outcome = .ok order ∧
      info.status = 300 ∧ order.status = 300) ∧
    (∃ repo, (Remote.connect choicesWeb {} "http://h/a.org").outcome = .ok repo ∧
      repo.state.kind = .stratum0 ∧ repo.state.version = "9" ∧
      (repo.startReplication choicesWeb).outcome = .ok ()) ∧
    (choicesEndpoint.fetch choicesWeb "control/info").outcome =
      .error (.artifactNotFound "http://h/a.org" "http://h/a.org/control/info") := by
  have hinfo : (request choicesWeb .get (choicesEndpoint.controlUrl "info")).outcome.map
      (·.status) = .ok 300 := by decide +kernel
  have horder : (request choicesWeb .post (choicesEndpoint.controlUrl "replicate")).outcome.map
      (fun r => (r.status, r.isRefusal, r.cut, r.body)) =
        .ok (300, false, false, choicesReply) := by
    decide +kernel
  obtain ⟨info, hget, hstatus⟩ := Outcome.map_eq_ok_iff.1 hinfo
  obtain ⟨order, hpost, hr⟩ := Outcome.map_eq_ok_iff.1 horder
  obtain ⟨hstatus', hrefusal, hcut, hbody⟩ : order.status = 300 ∧ order.isRefusal = false ∧
      order.cut = false ∧ order.body = choicesReply := by simpa using hr
  obtain ⟨repo, hrepo, hkind, hversion, hendpoint⟩ := connect_choicesWeb
  have hstart : (repo.startReplication choicesWeb).outcome = .ok () := by
    have hreply := readReply_eq_ok_iff.2 ⟨hrefusal, hcut, hbody ▸ choices_read.2⟩
    have hpost' : (request choicesWeb .post (repo.endpoint.controlUrl "replicate")).outcome =
        .ok order := by
      rw [hendpoint]
      exact hpost
    rw [Remote.outcome_startReplication, hpost', Outcome.ok_bind]
    unfold verdict
    rw [hreply]
    rfl
  exact ⟨⟨info, order, hget, hpost, hstatus, hstatus'⟩, ⟨repo, hrepo, hkind, hversion, hstart⟩,
    by decide +kernel⟩

end Endpoint

end Stratum
