import Stratum.Proofs.Discovery
import Stratum.Proofs.Trails
import Stratum.Repository.Remote

/-!
# Opening a repository on the web

`Remote.connect` reads the URL, finds out what the server says of itself, and then discovers. A
step of it is a request and a reading of the answer, and the reading is a function of the answer
alone: `Endpoint.readReply` for the control interface, `Endpoint.readArtifact` for artifacts. So
`outcome_call`, `content?_source` and `outcome_connect` reduce the whole to requests and their
answers.

> `missing_connect_iff`: a repository is not there exactly if its URL can be read, the server
> tells what there is to tell, and its manifest is answered without success.
-/

namespace Stratum

open Text

namespace Endpoint

variable {w : Web} {e : Endpoint} {α : Type}

/-! ## Requests -/

/-- A request that comes to nothing is a failure of the web. -/
theorem error_of_request {m : Method} {url : String} {d : Failure}
    (h : (request w m url).outcome = .error d) : ∃ cause, d = .http cause := by
  unfold request at h
  split at h
  next =>
    cases h
    exact ⟨_, rfl⟩
  next u _ =>
    rw [Trail.outcome_mapError] at h
    obtain ⟨cause, -, rfl⟩ := Outcome.mapError_eq_error_iff.1 h
    exact ⟨cause, rfl⟩

/-- So no request says that the repository is missing. -/
theorem not_missing_request (w : Web) (m : Method) (url : String) :
    ¬Missing (request w m url).outcome := by
  rintro ⟨d, h, hd⟩
  obtain ⟨cause, rfl⟩ := error_of_request h
  cases hd

/-! ## The control interface -/

/-- What an answer of the control interface says: nothing, if it is a refusal, cut short or not
the JSON that is expected. -/
def readReply (reader : Json → Option α) (r : Response) : Except Failure α :=
  if r.isRefusal then .error (.http (Client.refusal r))
  else if r.cut then .error (.http .decodingBody)
  else
    match Json.decode? reader r.body with
    | some a => .ok a
    | none => .error .badJson

/-- An answer says something exactly if it is none of these. -/
theorem readReply_eq_ok_iff {reader : Json → Option α} {r : Response} {a : α} :
    readReply reader r = .ok a ↔
      r.isRefusal = false ∧ r.cut = false ∧ Json.decode? reader r.body = some a := by
  unfold readReply
  cases r.isRefusal with
  | true => simp
  | false =>
    cases r.cut with
    | true => simp
    | false =>
      cases Json.decode? reader r.body <;> simp

/-- No answer says that the repository is missing. -/
theorem not_missing_readReply (reader : Json → Option α) (r : Response) :
    ¬Missing (readReply reader r) := by
  unfold readReply
  split
  · simp [Failure.isNotFound]
  · split
    · simp [Failure.isNotFound]
    · split <;> simp [Failure.isNotFound]

/-- A control call is a request and the reading of its answer. -/
theorem outcome_call (w : Web) (e : Endpoint) (m : Method) (name : String)
    (reader : Json → Option α) :
    (e.call w m name reader).outcome =
      (request w m (e.controlUrl name)).outcome >>= readReply reader := by
  unfold call
  rw [Trail.outcome_bind]
  refine bind_congr fun r => ?_
  unfold readReply
  split
  · rfl
  · split
    · rfl
    · cases Json.decode? reader r.body <;> rfl

/-- It sends what the request sends. -/
theorem asked_call (w : Web) (e : Endpoint) (m : Method) (name : String)
    (reader : Json → Option α) :
    (e.call w m name reader).asked = (request w m (e.controlUrl name)).asked := by
  refine Trail.asked_bind_of_quiet fun r => ?_
  split
  · rfl
  · split
    · rfl
    · split <;> rfl

/-- The endpoint once it is known whether it has a control interface. -/
def probedAs (e : Endpoint) (b : Bool) : Endpoint := { e with probed := some b }

/-- Whatever is known of the control interface, the artifacts are the same. -/
theorem source_probedAs (w : Web) (e : Endpoint) (b : Bool) :
    (e.probedAs b).source w = e.source w := rfl

/-- The first question is whether there is a control interface. -/
theorem outcome_probe (h : e.probed = none) :
    (e.probe w).outcome =
      (request w .head (e.controlUrl "info")).outcome.map fun r =>
        (r.status == 200, e.probedAs (r.status == 200)) := by
  unfold probe
  rw [h, Trail.outcome_bind]
  cases (request w .head (e.controlUrl "info")).outcome <;> rfl

/-- **What a server says of itself.** If the probe is answered with 200, its `info` counts, and
must be had; otherwise nothing is known. -/
theorem outcome_identify (h : e.probed = none) :
    (e.identify w).outcome =
      (request w .head (e.controlUrl "info")).outcome >>= fun r =>
        if r.status = 200 then
          ((request w .get (e.controlUrl "info")).outcome >>= readReply Control.Info.ofJson?).map
            fun info => (Kind.ofName info.kind, info.version, e.probedAs true)
        else .ok (.unknown, "unknown", e.probedAs false) := by
  unfold identify
  rw [Trail.outcome_bind, outcome_probe h]
  cases (request w .head (e.controlUrl "info")).outcome with
  | error d => rfl
  | ok r =>
    by_cases hr : r.status = 200
    · rw [Outcome.ok_bind, if_pos hr]
      simp only [Except.map, hr, beq_self_eq_true, Outcome.ok_bind, if_true]
      rw [Trail.outcome_bind, outcome_call]
      show ((request w .get (e.controlUrl "info")).outcome >>= readReply Control.Info.ofJson?)
        >>= _ = _
      cases (request w .get (e.controlUrl "info")).outcome >>= readReply Control.Info.ofJson? <;>
        rfl
    · rw [Outcome.ok_bind, if_neg hr]
      simp only [Except.map, Outcome.ok_bind, beq_false_of_ne hr]
      rfl

/-- A server tells what there is to tell: the probe is answered, and if it is answered with 200,
`info` is answered too, by no refusal and with a whole body that can be read. -/
def Tells (w : Web) (e : Endpoint) : Prop :=
  ∃ probe, (request w .head (e.controlUrl "info")).outcome = .ok probe ∧
    (probe.status = 200 →
      ∃ r info, (request w .get (e.controlUrl "info")).outcome = .ok r ∧ r.isRefusal = false ∧
        r.cut = false ∧ Json.decode? Control.Info.ofJson? r.body = some info)

/-- Just then something comes of asking it. -/
theorem tells_iff (h : e.probed = none) :
    e.Tells w ↔ ∃ told, (e.identify w).outcome = .ok told := by
  rw [outcome_identify h]
  constructor
  · rintro ⟨probe, hprobe, hinfo⟩
    rw [hprobe]
    by_cases hr : probe.status = 200
    · obtain ⟨r, info, hget, hrefusal, hcut, hread⟩ := hinfo hr
      have hreply := readReply_eq_ok_iff.2 ⟨hrefusal, hcut, hread⟩
      refine ⟨(Kind.ofName info.kind, info.version, e.probedAs true), ?_⟩
      rw [Outcome.ok_bind, if_pos hr, hget, Outcome.ok_bind, hreply]
      rfl
    · exact ⟨_, by rw [Outcome.ok_bind, if_neg hr]⟩
  · rintro ⟨told, hid⟩
    obtain ⟨probe, hprobe, hid⟩ := Outcome.bind_eq_ok_iff.1 hid
    refine ⟨probe, hprobe, fun hr => ?_⟩
    rw [if_pos hr] at hid
    obtain ⟨info, hinfo, -⟩ := Outcome.map_eq_ok_iff.1 hid
    obtain ⟨r, hget, hreply⟩ := Outcome.bind_eq_ok_iff.1 hinfo
    obtain ⟨hrefusal, hcut, hread⟩ := readReply_eq_ok_iff.1 hreply
    exact ⟨r, info, hget, hrefusal, hcut, hread⟩

/-- Asking a server adds to its endpoint whether the probe was answered with 200. -/
theorem probe_of_identify (h : e.probed = none) {told : Kind × String × Endpoint}
    (hid : (e.identify w).outcome = .ok told) :
    ∃ probe, (request w .head (e.controlUrl "info")).outcome = .ok probe ∧
      told.2.2 = e.probedAs (probe.status == 200) := by
  rw [outcome_identify h] at hid
  obtain ⟨probe, hprobe, hid⟩ := Outcome.bind_eq_ok_iff.1 hid
  refine ⟨probe, hprobe, ?_⟩
  split at hid
  next hstatus =>
    obtain ⟨info, -, rfl⟩ := Outcome.map_eq_ok_iff.1 hid
    rw [hstatus]
    rfl
  next hstatus =>
    cases hid
    rw [beq_false_of_ne hstatus]

/-- Nothing but that is added. -/
theorem endpoint_of_identify (h : e.probed = none) {told : Kind × String × Endpoint}
    (hid : (e.identify w).outcome = .ok told) : ∃ b, told.2.2 = e.probedAs b := by
  obtain ⟨probe, -, hprobe⟩ := probe_of_identify h hid
  exact ⟨_, hprobe⟩

/-- What a server says never means that the repository is missing. -/
theorem not_missing_identify (h : e.probed = none) : ¬Missing (e.identify w).outcome := by
  rw [outcome_identify h]
  refine not_missing_bind (not_missing_request _ _ _) fun r => ?_
  split
  · rw [missing_map_iff]
    exact not_missing_bind (not_missing_request _ _ _) fun r => not_missing_readReply _ _
  · exact not_missing_ok _

/-! ## Artifacts -/

/-- What an answer says of an artifact: without success it is missing, and otherwise it is there,
and must be whole. -/
def readArtifact (r : Response) : Except Failure (Option Bytes) :=
  if !r.isSuccess then .ok none
  else if r.cut then .error (.http .readingBody)
  else .ok (some r.body)

/-- A whole answer with the status of success is the artifact. -/
theorem readArtifact_of_ok {r : Response} (hstatus : r.status = 200) (hcut : r.cut = false) :
    readArtifact r = .ok (some r.body) := by
  have hsuccess : r.isSuccess = true := by
    unfold Response.isSuccess
    rw [hstatus]
    rfl
  unfold readArtifact
  rw [hsuccess, hcut]
  rfl

/-- An answer that nothing was found, whole or not, is that the artifact is missing. -/
theorem readArtifact_of_notFound {r : Response} (hstatus : r.status = 404) :
    readArtifact r = .ok none := by
  have hsuccess : r.isSuccess = false := by
    unfold Response.isSuccess
    rw [hstatus]
    rfl
  unfold readArtifact
  rw [hsuccess]
  rfl

/-- No answer about an artifact says that the repository is missing. -/
theorem not_missing_readArtifact (r : Response) : ¬Missing (readArtifact r) := by
  unfold readArtifact
  split
  · exact not_missing_ok _
  · split
    · simp [Failure.isNotFound]
    · exact not_missing_ok _

/-- To fetch an artifact is to send a request. -/
theorem asked_fetch (w : Web) (e : Endpoint) (name : String) :
    (e.fetch w name).asked = (request w .get (e.artifactUrl name)).asked := by
  refine Trail.asked_bind_of_quiet fun r => ?_
  split
  · rfl
  · split <;> rfl

/-- What is learned of an artifact on the web is the reading of the answer to one request. -/
theorem content?_source (w : Web) (e : Endpoint) (name : String) :
    (e.source w).content? name =
      (request w .get (e.artifactUrl name)).outcome >>= readArtifact := by
  show Source.orNone (e.fetch w name).outcome = _
  unfold fetch
  rw [Trail.outcome_bind]
  cases h : (request w .get (e.artifactUrl name)).outcome with
  | error d =>
    obtain ⟨cause, rfl⟩ := error_of_request h
    rfl
  | ok r =>
    rw [Outcome.ok_bind, Outcome.ok_bind]
    unfold readArtifact
    split
    · rfl
    · split <;> rfl

/-- The web never answers that the repository is missing. -/
theorem not_missing_content?_source (w : Web) (e : Endpoint) (name : String) :
    ¬Missing ((e.source w).content? name) := by
  rw [content?_source]
  exact not_missing_bind (not_missing_request _ _ _) not_missing_readArtifact

/-- An artifact is missing exactly if it is answered without success. -/
theorem content?_source_eq_none_iff {name : String} :
    (e.source w).content? name = .ok none ↔
      ∃ r, (request w .get (e.artifactUrl name)).outcome = .ok r ∧ r.isSuccess = false := by
  rw [content?_source, Outcome.bind_eq_ok_iff]
  refine exists_congr fun r => and_congr_right fun _ => ?_
  unfold readArtifact
  cases r.isSuccess with
  | false => simp
  | true => cases r.cut <;> simp

end Endpoint

namespace Remote

variable {w : Web} {layout : Layout} {url : String}

/-- At first nothing is known of the control interface. -/
theorem probed_of_ofUrl {e : Endpoint} (h : Endpoint.ofUrl url layout = .ok e) :
    e.probed = none := by
  unfold Endpoint.ofUrl at h
  split at h
  · cases h
  · cases h
    rfl

/-- A URL that cannot be read is a failure of its own. -/
theorem not_missing_ofUrl (url : String) (layout : Layout) :
    ¬Missing (Endpoint.ofUrl url layout) := by
  unfold Endpoint.ofUrl
  split
  · simp [Failure.isNotFound]
  · exact not_missing_ok _

/-- Connecting is reading the URL, asking the server, and then discovery. -/
theorem outcome_connect (w : Web) (layout : Layout) (url : String) :
    (connect w layout url).outcome =
      Endpoint.ofUrl url layout >>= fun e => (e.identify w).outcome >>= fun told =>
        (((told.2.2.source w).discover layout told.1 told.2.1).outcome).map (Remote.mk told.2.2) := by
  unfold connect
  rw [Trail.outcome_bind, Trail.outcome_of]
  refine bind_congr fun e => ?_
  rw [Trail.outcome_bind]
  refine bind_congr fun told => ?_
  obtain ⟨kind, version, e'⟩ := told
  simp only [Trail.outcome_bind, Trail.outcome_expand]
  cases ((e'.source w).discover layout kind version).outcome <;> rfl

/-- **What is known of the control interface of an open repository**: whether the probe was
answered with 200. -/
theorem endpoint_of_connect {r : Remote} (h : (connect w layout url).outcome = .ok r) :
    ∃ e probe, Endpoint.ofUrl url layout = .ok e ∧
      (Endpoint.request w .head (e.controlUrl "info")).outcome = .ok probe ∧
      r.endpoint = e.probedAs (probe.status == 200) := by
  rw [outcome_connect] at h
  obtain ⟨e, he, h⟩ := Outcome.bind_eq_ok_iff.1 h
  obtain ⟨told, hid, h⟩ := Outcome.bind_eq_ok_iff.1 h
  obtain ⟨state, -, rfl⟩ := Outcome.map_eq_ok_iff.1 h
  obtain ⟨probe, hprobe, hendpoint⟩ := Endpoint.probe_of_identify (probed_of_ofUrl he) hid
  exact ⟨e, probe, he, hprobe, hendpoint⟩

/-- So it is known. -/
theorem probed_of_connect {r : Remote} (h : (connect w layout url).outcome = .ok r) :
    ∃ b, r.endpoint.probed = some b := by
  obtain ⟨e, probe, -, -, hendpoint⟩ := endpoint_of_connect h
  exact ⟨_, by rw [hendpoint]; rfl⟩

/-- What is known of it is said without a request, and stays as it is. -/
theorem hasControl_of_probed {r : Remote} {b : Bool} (h : r.endpoint.probed = some b) (w : Web) :
    r.hasControl w = pure (b, r) := by
  unfold hasControl
  rw [Endpoint.probe_of_probed h]
  rfl

/-- **When a repository on the web is not there**: its URL can be read, the server tells what
there is to tell, and the request for the manifest is answered without success. -/
theorem missing_connect_iff :
    Missing (connect w layout url).outcome ↔
      ∃ e, Endpoint.ofUrl url layout = .ok e ∧ e.Tells w ∧
        ∃ r, (Endpoint.request w .get (e.artifactUrl layout.manifestName)).outcome = .ok r ∧
          r.isSuccess = false := by
  rw [outcome_connect, missing_bind_iff, or_iff_right (not_missing_ofUrl _ _)]
  refine exists_congr fun e => and_congr_right fun he => ?_
  have hprobed := probed_of_ofUrl he
  rw [missing_bind_iff, or_iff_right (Endpoint.not_missing_identify hprobed),
    Endpoint.tells_iff hprobed, ← Endpoint.content?_source_eq_none_iff]
  rw [← exists_and_right]
  refine exists_congr fun told => and_congr_right fun hid => ?_
  obtain ⟨b, hb⟩ := Endpoint.endpoint_of_identify hprobed hid
  have hs := Endpoint.not_missing_content?_source w (e.probedAs b)
  rw [hb, missing_map_iff, Source.missing_discover_iff hs, Endpoint.source_probedAs]

end Remote

end Stratum
