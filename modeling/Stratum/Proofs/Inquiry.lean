import Stratum.Proofs.Questions

/-!
# Opening as an inquiry

Each step of opening a repository on the web puts some of the questions, and the steps in a row put
them all. The result of a step is good if it is what the answers say: `Told` for the control
interface, `Retrieved` for one artifact, and `Resolves` for the repository in the end.

> `inquires_connect`: opening puts the questions up to the first that fails, and if none does, kind
> and version of the repository are what the answers say.
-/

namespace Stratum

open Text

section

variable (w : Web) (base : String) (layout : Layout)

/-- A kind that no server declares: that of a replica if there is a marker of the last
replication. -/
def InferredKind (kind : Kind) : Prop :=
  (((Question.artifact .lastReplication).answer w base layout).Succeeds → kind = .stratum1) ∧
  (¬((Question.artifact .lastReplication).answer w base layout).Succeeds → kind = .unknown)

/-- Kind and version of a repository are what the answers say. -/
structure Resolves (state : State) : Prop where
  told : (Question.probe.answer w base layout).status = 200 →
    ∃ info, Json.decode? Control.Info.ofJson? (Question.info.answer w base layout).body =
        some info ∧
      state.version = info.version ∧
      (info.kind = "stratum0" → state.kind = .stratum0) ∧
      (info.kind = "stratum1" → state.kind = .stratum1) ∧
      (info.kind ≠ "stratum0" → info.kind ≠ "stratum1" → InferredKind w base layout state.kind)
  untold : (Question.probe.answer w base layout).status ≠ 200 →
    state.version = "unknown" ∧ InferredKind w base layout state.kind

end

/-! ## The control interface -/

/-- Whatever is added to the base is a URL of the scheme `http`, or none at all. -/
def IsHttpBase (base : String) : Prop :=
  ∀ more v, Url.parse (base ++ more).toList = .ok v → v.scheme = "http".toList

namespace Endpoint

variable {w : Web} {base : String} {layout : Layout} {e : Endpoint}

/-- The place is at the base, and the path of the control interface is as the layout has it. -/
structure IsFor (e : Endpoint) (base : String) (layout : Layout) : Prop where
  base_eq : e.base = base
  connector_eq : e.connector = layout.connector

/-- The control interface is asked below the base. -/
theorem IsFor.controlUrl_eq (h : e.IsFor base layout) :
    e.controlUrl "info" = base ++ "/" ++ (layout.connector ++ "/info") := by
  have hinfo : "/" ++ "info" = "/info" := by decide
  unfold controlUrl
  rw [h.base_eq, h.connector_eq, String.append_assoc, String.append_assoc, hinfo]

/-- So are the artifacts. -/
theorem IsFor.artifactUrl_eq (h : e.IsFor base layout) (a : Artifact) :
    e.artifactUrl (a.name layout) = base ++ "/" ++ a.name layout := by
  unfold artifactUrl
  rw [h.base_eq]

/-- **A question is one request**, and what comes of it is what the web answers. -/
theorem requested_question (hw : w.Unredirected) (http : IsHttpBase base) (layout : Layout)
    (q : Question) :
    Requested w q.method (q.url base layout) (request w q.method (q.url base layout)) := by
  refine requested hw q.method fun v hv => ?_
  unfold Question.url at hv
  rw [String.append_assoc] at hv
  exact http _ v hv

/-- One question that passes. -/
theorem passes_singleton {q : Question} (put : w.CanBeAsked (q.url base layout))
    (sound : ¬q.Fails w base layout) : ∀ p ∈ [q], p.Passes w base layout :=
  List.forall_mem_singleton.2 ⟨put, sound⟩

/-- A request and the reading of its answer put one question. -/
theorem inquires_of_requested {α : Type} {good : α → Prop} {q : Question}
    {t : Trail Sent Failure Response} (h : Requested w q.method (q.url base layout) t)
    {f : Response → Trail Sent Failure α} (quiet : ∀ r, (f r).asked = [])
    (hgood : ∀ v a, (f (Client.responseOf v (q.answer w base layout))).outcome = .ok a →
      (q.answer w base layout).breakage ≠ some .connection → ¬q.Fails w base layout ∧ good a)
    (hfails : ∀ v d, (f (Client.responseOf v (q.answer w base layout))).outcome = .error d →
      (q.answer w base layout).breakage ≠ some .connection → q.Fails w base layout) :
    Inquires w base layout good [q] (t >>= f) := by
  have hnone : ∀ b ∈ ([] : List Question), b.Passes w base layout := List.forall_mem_nil _
  cases h with
  | unput h d =>
    rw [Trail.bind_of_error rfl]
    exact .unput hnone h
  | lost put h d =>
    rw [Trail.bind_of_error rfl]
    exact .failed hnone put (.lost h)
  | answered put h v =>
    -- What is left is to read the answer, for which nothing more is sent.
    rw [Trail.bind_of_ok rfl, quiet, List.append_nil]
    show Inquires w base layout good [q] ⟨[q].map (Question.sent base layout),
      (f (Client.responseOf v (q.answer w base layout))).outcome⟩
    cases hf : (f (Client.responseOf v (q.answer w base layout))).outcome with
    | error d => exact .failed hnone put (hfails v d hf h)
    | ok a =>
      obtain ⟨sound, ha⟩ := hgood v a hf h
      exact .answered (passes_singleton put sound) ha

/-- Nothing is wrong with an answer to the first question that is not lost. -/
theorem not_fails_probe
    (h : (Question.probe.answer w base layout).breakage ≠ some .connection) :
    ¬Question.probe.Fails w base layout := by
  intro hfails
  cases hfails with
  | lost hlost => exact h hlost

/-- Whether the first answer has the status 200. -/
def available (w : Web) (base : String) (layout : Layout) : Bool :=
  (Question.probe.answer w base layout).status == 200

/-- The probe asks one question, and takes any success for a yes. -/
theorem inquires_probe (hw : w.Unredirected) (http : IsHttpBase base) (he : e.IsFor base layout)
    (hprobed : e.probed = none) :
    Inquires w base layout
      (fun told => told = (available w base layout, e.probedAs (available w base layout)))
      [.probe] (e.probe w) := by
  have hrequested := requested_question hw http layout .probe
  have hurl : Question.probe.url base layout = e.controlUrl "info" := he.controlUrl_eq.symm
  unfold probe
  rw [hprobed, ← hurl]
  refine inquires_of_requested hrequested (fun r => rfl) ?_ ?_
  · intro v told htold hlost
    exact ⟨not_fails_probe hlost, (Except.ok.inj htold).symm⟩
  · intro v d hd
    cases hd

/-- The question for the type fails on a bad status and on a body that is not what is expected. -/
theorem fails_info_iff :
    Question.info.Fails w base layout ↔
      (¬(Question.info.answer w base layout).Counts ∨
        Json.decode? Control.Info.ofJson? (Question.info.answer w base layout).body = none) := by
  constructor
  · intro h
    cases h with
    | lost h =>
      refine Or.inl fun hcounts => ?_
      rw [hcounts.1] at h
      cases h
    | refused h => exact Or.inl h
    | undecodable h => exact Or.inr h
  · intro h
    rcases h with h | h
    · exact .refused h
    · exact .undecodable h

/-- A control call is a request and the reading of its answer. -/
theorem call_eq {α : Type} (w : Web) (e : Endpoint) (m : Method) (name : String)
    (reader : Json → Option α) :
    e.call w m name reader =
      request w m (e.controlUrl name) >>= fun r => Trail.of (readReply reader r) := by
  unfold call
  refine bind_congr fun r => ?_
  unfold readReply
  split
  · rfl
  · split
    · rfl
    · cases Json.decode? reader r.body <;> rfl

/-- Asking for the type is that question alone. -/
theorem inquires_info (hw : w.Unredirected) (http : IsHttpBase base) (he : e.IsFor base layout) :
    Inquires w base layout
      (fun info => Json.decode? Control.Info.ofJson? (Question.info.answer w base layout).body =
        some info)
      [.info] (e.call w .get "info" Control.Info.ofJson?) := by
  have hrequested := requested_question hw http layout .info
  have hurl : Question.info.url base layout = e.controlUrl "info" := he.controlUrl_eq.symm
  rw [call_eq, ← hurl]
  refine inquires_of_requested hrequested (fun r => rfl) ?_ ?_
  · intro v info hread hlost
    obtain ⟨hrefusal, hcut, hinfo⟩ := readReply_eq_ok_iff.1 hread
    have hcounts := (counts_iff hlost v).2 ⟨hrefusal, hcut⟩
    refine ⟨fun hfails => ?_, hinfo⟩
    rcases fails_info_iff.1 hfails with h | h
    · exact h hcounts
    · cases hinfo.symm.trans h
  · intro v d hread hlost
    rw [fails_info_iff]
    by_cases hcounts : (Question.info.answer w base layout).Counts
    · refine Or.inr ?_
      cases hinfo : Json.decode? Control.Info.ofJson? (Question.info.answer w base layout).body with
      | none => rfl
      | some info =>
        obtain ⟨hrefusal, hcut⟩ := (counts_iff hlost v).1 hcounts
        have hok := readReply_eq_ok_iff.2 ⟨hrefusal, hcut, hinfo⟩
        cases hread.symm.trans hok
    · exact Or.inl hcounts

/-- What the answers about the control interface come to. -/
structure Told (w : Web) (base : String) (layout : Layout) (kind : Kind) (version : String) :
    Prop where
  declared : (Question.probe.answer w base layout).status = 200 →
    ∃ info, Json.decode? Control.Info.ofJson? (Question.info.answer w base layout).body =
        some info ∧ kind = Kind.ofName info.kind ∧ version = info.version
  silent : (Question.probe.answer w base layout).status ≠ 200 →
    kind = .unknown ∧ version = "unknown"

theorem IsFor.probedAs (h : e.IsFor base layout) (b : Bool) : (e.probedAs b).IsFor base layout :=
  ⟨h.base_eq, h.connector_eq⟩

/-- **The control interface** is asked for the type if the probe found one, and otherwise not. -/
theorem inquires_identify (hw : w.Unredirected) (http : IsHttpBase base) (he : e.IsFor base layout)
    (hprobed : e.probed = none) :
    Inquires w base layout
      (fun told => told.2.2.IsFor base layout ∧ Told w base layout told.1 told.2.1)
      (controlQuestions w base layout) (e.identify w) := by
  unfold controlQuestions
  refine (inquires_probe hw http he hprobed).bind ?_
  rintro told rfl
  dsimp only
  by_cases hstatus : (Question.probe.answer w base layout).status = 200
  · have havailable : available w base layout = true := beq_iff_eq.2 hstatus
    rw [if_pos hstatus, havailable, if_pos rfl, ← List.append_nil [Question.info]]
    refine (inquires_info hw http (he.probedAs true)).bind fun info hinfo => ?_
    refine .nothing ⟨he.probedAs true, ?_, ?_⟩
    · exact fun _ => ⟨info, hinfo, rfl, rfl⟩
    · exact fun hother => absurd hstatus hother
  · have havailable : available w base layout = false := beq_false_of_ne hstatus
    rw [if_neg hstatus, havailable, if_neg Bool.false_ne_true]
    refine .nothing ⟨he.probedAs false, ?_, ?_⟩
    · exact fun h => absurd h hstatus
    · exact fun _ => ⟨rfl, rfl⟩

/-! ## Artifacts -/

/-- All that is handed out for an artifact by a server that can be asked for it. -/
inductive Retrieved (a : Answer) : Except Failure Bytes → Prop
  | lost (h : a.breakage = some .connection) (d : HttpError) : Retrieved a (.error (.http d))
  | missing (came : a.breakage ≠ some .connection) (h : ¬a.Succeeds)
    (repository artifact : String) : Retrieved a (.error (.artifactNotFound repository artifact))
  | curtailed (h : a.Succeeds) (hcut : a.breakage = some .body) (d : HttpError) :
    Retrieved a (.error (.http d))
  | held (h : a.Succeeds) (whole : a.breakage = none) : Retrieved a (.ok a.body)

/-- A response gives the bytes of an artifact exactly if it is a success and was not cut short. -/
theorem retrieved_responseOf {a : Answer} (came : a.breakage ≠ some .connection) (v : Url)
    (repository artifact : String) :
    Retrieved a (if !(Client.responseOf v a).isSuccess then
        Trail.fail (.artifactNotFound repository artifact)
      else if (Client.responseOf v a).cut then Trail.fail (.http .readingBody)
      else return (Client.responseOf v a).body : Trail Sent Failure Bytes).outcome := by
  have hsuccess : (Client.responseOf v a).isSuccess = true ↔ a.Succeeds := by
    unfold Response.isSuccess
    rw [Bool.and_eq_true, decide_eq_true_eq, decide_eq_true_eq]
    exact Iff.rfl
  have hcut : (Client.responseOf v a).cut = true ↔ a.breakage = some .body := decide_eq_true_iff
  cases hyes : (Client.responseOf v a).isSuccess with
  | false =>
    refine .missing came (fun h => ?_) _ _
    rw [hsuccess.2 h] at hyes
    cases hyes
  | true =>
    cases hbody : (Client.responseOf v a).cut with
    | true => exact .curtailed (hsuccess.1 hyes) (hcut.1 hbody) _
    | false =>
      refine .held (hsuccess.1 hyes) ?_
      cases hb : a.breakage with
      | none => rfl
      | some b =>
        cases b with
        | connection => exact absurd hb came
        | body =>
          rw [hcut.2 hb] at hbody
          cases hbody

section Artifacts

variable (hw : w.Unredirected) (http : IsHttpBase base) (he : e.IsFor base layout)

include hw http he

/-- An artifact is one request. -/
theorem requested_artifact (a : Artifact) :
    Requested w .get ((Question.artifact a).url base layout)
      (request w .get (e.artifactUrl (a.name layout))) := by
  rw [he.artifactUrl_eq]
  exact requested_question hw http layout (.artifact a)

/-- What comes of it is the artifact, its absence, or a failure of the web. -/
theorem retrieved {a : Artifact} (put : w.CanBeAsked ((Question.artifact a).url base layout)) :
    Retrieved ((Question.artifact a).answer w base layout)
      ((e.source w).retrieve (a.name layout)) := by
  have hrequested := requested_artifact hw http he a
  show Retrieved _ (e.fetch w (a.name layout)).outcome
  unfold fetch
  generalize request w .get (e.artifactUrl (a.name layout)) = t at hrequested
  cases hrequested with
  | unput h => exact absurd put h
  | lost _ h d => exact .lost h d
  | answered _ came v =>
    rw [Trail.bind_of_ok rfl]
    exact retrieved_responseOf came v _ _

/-- Fetching it asks that question and no other. -/
theorem asked_fetch_of_put {a : Artifact}
    (put : w.CanBeAsked ((Question.artifact a).url base layout)) :
    (e.fetch w (a.name layout)).asked = [(Question.artifact a).sent base layout] := by
  have hrequested := requested_artifact hw http he a
  rw [asked_fetch]
  generalize request w .get (e.artifactUrl (a.name layout)) = t at hrequested
  cases hrequested with
  | unput h => exact absurd put h
  | lost => rfl
  | answered => rfl

/-- A question that cannot be put comes to nothing, and sends nothing. -/
theorem unretrieved {a : Artifact}
    (unput : ¬w.CanBeAsked ((Question.artifact a).url base layout)) :
    (∃ d, (e.source w).retrieve (a.name layout) = .error (.http d)) ∧
      (e.fetch w (a.name layout)).asked = [] := by
  have hrequested := requested_artifact hw http he a
  rw [asked_fetch]
  show (∃ d, (e.fetch w (a.name layout)).outcome = .error (.http d)) ∧ _
  unfold fetch
  generalize request w .get (e.artifactUrl (a.name layout)) = t at hrequested
  cases hrequested with
  | unput h d => exact ⟨⟨d, rfl⟩, rfl⟩
  | lost put => exact absurd put unput
  | answered put => exact absurd put unput

end Artifacts

/-- What fails is flawed. -/
theorem flaw_of_fails {s : Source} {a : Artifact}
    (hs : Retrieved ((Question.artifact a).answer w base layout) (s.retrieve (a.name layout)))
    (h : (Question.artifact a).Fails w base layout) : ∃ d, s.Flaw layout a d := by
  -- A lost or cut answer is not taken for a missing artifact.
  have hother (d : HttpError) (repository artifact : String) :
      Failure.http d ≠ .artifactNotFound repository artifact := by
    intro h
    cases h
  generalize hx : s.retrieve (a.name layout) = x at hs
  cases hs with
  | lost _ d => exact ⟨_, .unavailable hx (hother d)⟩
  | curtailed _ _ d => exact ⟨_, .unavailable hx (hother d)⟩
  | missing came hno repository artifact =>
    cases h with
    | lost hlost => exact absurd hlost came
    | missing => exact ⟨_, .missing ⟨repository, artifact, hx⟩⟩
    | curtailed hyes => exact absurd hyes hno
    | noManifest hyes => exact absurd hyes hno
    | noMarker _ hyes => exact absurd hyes hno
  | held hyes whole =>
    cases h with
    | lost hlost => cases whole.symm.trans hlost
    | missing hno => exact absurd hyes hno
    | curtailed _ hcut => cases whole.symm.trans hcut
    | noManifest _ hread => exact ⟨_, .noManifest hx hread⟩
    | noMarker marker _ hread =>
      rcases Source.readMarker_eq_error_iff.1 hread with ⟨htext, -⟩ | ⟨text, htext, htime, -⟩
      · exact ⟨_, .noText marker hx htext⟩
      · exact ⟨_, .noTime marker hx htext htime⟩

/-- What is flawed fails. -/
theorem fails_of_flaw {s : Source} {a : Artifact} {d : Failure}
    (hs : Retrieved ((Question.artifact a).answer w base layout) (s.retrieve (a.name layout)))
    (h : s.Flaw layout a d) : (Question.artifact a).Fails w base layout := by
  generalize hx : s.retrieve (a.name layout) = x at hs
  cases hs with
  | lost hlost _ => exact .lost hlost
  | curtailed hyes hcut _ => exact .curtailed hyes hcut
  | missing came hno repository artifact =>
    cases h with
    | missing => exact .missing hno
    | unavailable h other =>
      exact absurd (Except.error.inj (h.symm.trans hx)) (other repository artifact)
    | noManifest h => cases h.symm.trans hx
    | noText _ h => cases h.symm.trans hx
    | noTime _ h => cases h.symm.trans hx
  | held hyes _ =>
    cases h with
    | missing h =>
      obtain ⟨repository, artifact, h⟩ := h
      cases h.symm.trans hx
    | unavailable h => cases h.symm.trans hx
    | noManifest h hread =>
      cases h.symm.trans hx
      exact .noManifest hyes hread
    | noText marker h htext =>
      cases h.symm.trans hx
      exact .noMarker marker hyes (Source.readMarker_eq_error_iff.2 (Or.inl ⟨htext, rfl⟩))
    | noTime marker h htext htime =>
      cases h.symm.trans hx
      exact .noMarker marker hyes
        (Source.readMarker_eq_error_iff.2 (Or.inr ⟨_, htext, htime, rfl⟩))

section Artifacts

variable (hw : w.Unredirected) (http : IsHttpBase base) (he : e.IsFor base layout)

include hw http he

/-- An artifact that has no flaw passes. -/
theorem passes_of_not_flaw {a : Artifact} (h : ∀ d, ¬(e.source w).Flaw layout a d) :
    (Question.artifact a).Passes w base layout := by
  have put : w.CanBeAsked ((Question.artifact a).url base layout) := by
    -- What cannot even be asked for would be flawed.
    by_contra unput
    obtain ⟨⟨d, hd⟩, -⟩ := unretrieved hw http he unput
    exact h _ (.unavailable hd fun repository artifact h => by cases h)
  refine ⟨put, fun hfails => ?_⟩
  obtain ⟨d, hflaw⟩ := flaw_of_fails (retrieved hw http he put) hfails
  exact h d hflaw

/-- Artifacts that are fetched one after another are questions asked one after another. -/
theorem asked_fetch_of_passes {as : List Artifact}
    (h : ∀ a ∈ as, (Question.artifact a).Passes w base layout) :
    (as.map (Artifact.name layout)).flatMap (fun name => (e.fetch w name).asked) =
      (as.map Question.artifact).map (Question.sent base layout) := by
  induction as with
  | nil => rfl
  | cons a as ih =>
    have ha := asked_fetch_of_put hw http he (h a List.mem_cons_self).canBeAsked
    have hrest := ih fun b hb => h b (List.mem_cons_of_mem a hb)
    rw [List.map_cons, List.flatMap_cons, ha, hrest]
    rfl

/-- Where the type is not told, it is inferred from the marker of the last replication. -/
theorem inferredKind_of_shows {declared : Kind} {version : String} {state : State}
    (passes : (Question.artifact .lastReplication).Passes w base layout)
    (shows : (e.source w).Shows layout declared version state) (hdeclared : declared = .unknown) :
    InferredKind w base layout state.kind := by
  have hretrieved := retrieved hw http he passes.canBeAsked
  generalize hx : (e.source w).retrieve (Artifact.name layout .lastReplication) = x at hretrieved
  cases hretrieved with
  | lost hlost => exact absurd (.lost hlost) passes.sound
  | curtailed hyes hcut => exact absurd (.curtailed hyes hcut) passes.sound
  | missing _ hno repository artifact =>
    refine ⟨fun hyes => absurd hyes hno, fun _ => ?_⟩
    exact shows.kind_of_no_marker hdeclared ⟨repository, artifact, hx⟩
  | held hyes _ =>
    refine ⟨fun _ => ?_, fun hno => absurd hyes hno⟩
    exact shows.kind_of_marker hdeclared ⟨_, hx⟩

/-- **Discovery** asks for the artifacts up to the first one with a flaw. -/
theorem inquires_discover (declared : Kind) (version : String) :
    Inquires w base layout
      (fun state => state.version = version ∧ (declared ≠ .unknown → state.kind = declared) ∧
        (declared = .unknown → InferredKind w base layout state.kind))
      (Artifact.all.map .artifact)
      (((e.source w).discover layout declared version).expand fun name =>
        (e.fetch w name).asked) := by
  have hdiscovers := Source.discovers (e.source w) layout declared version
  generalize (e.source w).discover layout declared version = t at hdiscovers
  cases hdiscovers with
  | found sound shows =>
    have passes (a : Artifact) : (Question.artifact a).Passes w base layout :=
      passes_of_not_flaw hw http he (sound a)
    unfold Trail.expand
    rw [asked_fetch_of_passes hw http he fun a _ => passes a]
    refine .answered ?_ ⟨shows.version_eq, shows.declared_kept, ?_⟩
    · intro q hq
      obtain ⟨a, -, rfl⟩ := List.mem_map.1 hq
      exact passes a
    · exact inferredKind_of_shows hw http he (passes .lastReplication) shows
  | @stopped before _ a _ order sound flaw =>
    have passes : ∀ b ∈ before, (Question.artifact b).Passes w base layout := fun b hb =>
      passes_of_not_flaw hw http he (sound b hb)
    have hbefore : ∀ q ∈ before.map Question.artifact, q.Passes w base layout := by
      intro q hq
      obtain ⟨b, hb, rfl⟩ := List.mem_map.1 hq
      exact passes b hb
    unfold Trail.expand
    rw [order, List.map_append, List.map_cons, List.map_append, List.flatMap_append,
      asked_fetch_of_passes hw http he passes]
    -- The last artifact that is looked for need not have been asked for.
    by_cases put : w.CanBeAsked ((Question.artifact a).url base layout)
    · have hfails := fails_of_flaw (retrieved hw http he put) flaw
      have hlast : ([a].map (Artifact.name layout)).flatMap (fun name => (e.fetch w name).asked) =
          [Question.artifact a].map (Question.sent base layout) := by
        rw [List.map_singleton, List.flatMap_singleton, asked_fetch_of_put hw http he put]
        rfl
      rw [hlast, ← List.map_append]
      exact .failed hbefore put hfails
    · have hlast : ([a].map (Artifact.name layout)).flatMap (fun name => (e.fetch w name).asked) =
          [] := by
        rw [List.map_singleton, List.flatMap_singleton, (unretrieved hw http he put).2]
      rw [hlast, List.append_nil]
      exact .unput hbefore put

end Artifacts

end Endpoint

namespace Remote

variable {w : Web} {base : String} {layout : Layout} {url : String} {e : Endpoint}

/-- What is told takes precedence over what is inferred. -/
theorem resolves_of_told {kind : Kind} {version : String} {state : State}
    (htold : Endpoint.Told w base layout kind version) (hversion : state.version = version)
    (hdeclared : kind ≠ .unknown → state.kind = kind)
    (hinferred : kind = .unknown → InferredKind w base layout state.kind) :
    Resolves w base layout state where
  told h := by
    obtain ⟨info, hinfo, rfl, rfl⟩ := htold.declared h
    refine ⟨info, hinfo, hversion, ?_, ?_, ?_⟩
    · intro hkind
      rw [hkind] at hdeclared
      exact hdeclared (by decide)
    · intro hkind
      rw [hkind] at hdeclared
      exact hdeclared (by decide)
    · -- Any other name is taken for a kind that is unknown.
      intro hzero hone
      refine hinferred ?_
      unfold Kind.ofName
      cases hname : Kind.ofName? info.kind with
      | none => rfl
      | some k =>
        have hk := Kind.ofName?_eq_some_iff.1 hname
        cases k with
        | stratum0 => exact absurd hk hzero
        | stratum1 => exact absurd hk hone
        | unknown => rfl
  untold h := by
    obtain ⟨hkind, rfl⟩ := htold.silent h
    exact ⟨hversion, hinferred hkind⟩

/-- Opening is the questions of the control interface and then those of discovery. -/
theorem inquires_connect_of_isFor (hw : w.Unredirected) (http : IsHttpBase base)
    (hurl : Endpoint.ofUrl url layout = .ok e) (he : e.IsFor base layout) :
    Inquires w base layout (fun r => Resolves w base layout r.state) (questions w base layout)
      (connect w layout url) := by
  have hplace : (Trail.of (Endpoint.ofUrl url layout) : Trail Sent Failure Endpoint) = pure e := by
    rw [hurl]
    rfl
  have hidentify := Endpoint.inquires_identify hw http he (probed_of_ofUrl hurl)
  unfold connect questions
  rw [hplace, pure_bind]
  refine hidentify.bind fun told htold => ?_
  obtain ⟨kind, version, e'⟩ := told
  obtain ⟨he', htold⟩ := htold
  rw [← List.append_nil (Artifact.all.map Question.artifact)]
  refine (Endpoint.inquires_discover hw http he' kind version).bind fun state hstate => ?_
  obtain ⟨hversion, hdeclared, hinferred⟩ := hstate
  exact .nothing (resolves_of_told htold hversion hdeclared hinferred)

end Remote

/-! ## Where the requests go -/

/-- The text of a URL without slashes at its end. -/
def Url.base (u : Url) : String := String.ofList (Endpoint.trimEnd u.text)

/-- The names that a layout has for what is asked of a server are made of characters that stand for
themselves. -/
structure Layout.IsPlain (layout : Layout) : Prop where
  connector : ∀ c ∈ layout.connector.toList, Percent.isUnreserved c = true
  artifact : ∀ a, ∀ c ∈ (Artifact.name layout a).toList, Percent.isUnreserved c = true

namespace Question

variable {layout : Layout} {u : Url}

/-- No dots are resolved in the address. -/
def IsProper (layout : Layout) : Question → Prop
  | probe => layout.connector ≠ "" ∧ layout.connector ≠ "." ∧ layout.connector ≠ ".."
  | info => layout.connector ≠ "" ∧ layout.connector ≠ "." ∧ layout.connector ≠ ".."
  | artifact a => a.name layout ≠ "." ∧ a.name layout ≠ ".."

/-- The URL of a request: that of the repository with a longer path. -/
structure GoesTo (u : Url) (layout : Layout) (q : Question) (v : Url) : Prop where
  eq : ∃ host, v = { u.withHost host with path := v.path }
  path : v.path = Url.hierarchyPath true
    (Endpoint.trimEnd u.path ++ '/' :: (q.address layout).toList)
  path_of_isProper : q.IsProper layout →
    v.path = Endpoint.trimEnd u.path ++ '/' :: (q.address layout).toList

/-- A question goes to the base without its last slashes, and an address behind one slash. -/
theorem toList_url (u : Url) (layout : Layout) (q : Question) :
    (q.url u.base layout).toList =
      Endpoint.trimEnd u.text ++ '/' :: (q.address layout).toList := by
  have hslash : "/".toList = ['/'] := by decide
  unfold url Url.base
  rw [String.toList_append, String.toList_append, String.toList_ofList, hslash, List.append_assoc]
  rfl

theorem toList_controlAddress (layout : Layout) :
    (layout.connector ++ "/info").toList = layout.connector.toList ++ '/' :: "info".toList := by
  have hinfo : "/info".toList = '/' :: "info".toList := by decide
  rw [String.toList_append, hinfo]

theorem isPlainName_info : Url.IsPlainName "info".toList :=
  ⟨List.all_eq_true.1 (by decide +kernel), by decide, by decide⟩

/-- Plain names make plain addresses. -/
theorem plain_address (hplain : layout.IsPlain) (q : Question) :
    ∀ c ∈ (q.address layout).toList, Percent.path c = false := by
  have hcontrol : ∀ c ∈ (layout.connector ++ "/info").toList, Percent.path c = false := by
    intro c hc
    rw [toList_controlAddress] at hc
    rcases List.mem_append.1 hc with hc | hc
    · exact (Percent.isInert_of_isUnreserved (hplain.connector c hc)).path
    · rcases List.mem_cons.1 hc with rfl | hc
      · decide
      · exact (isPlainName_info.inert c hc).path
  cases q with
  | probe => exact hcontrol
  | info => exact hcontrol
  | artifact a => exact fun c hc =>
    (Percent.isInert_of_isUnreserved (hplain.artifact a c hc)).path

/-- A name at the end of a path has no slashes to be dropped. -/
theorem trimEnd_append_name {name : List Char} (h : Url.IsPlainName name) (hne : name ≠ [])
    (s : List Char) : Endpoint.trimEnd (s ++ name) = s ++ name := by
  rcases List.eq_nil_or_concat name with hnil | ⟨body, c, hconcat⟩
  · exact absurd hnil hne
  · rw [List.concat_eq_append] at hconcat
    have hc : c ∈ name := hconcat ▸ List.mem_concat_self
    rw [hconcat, ← List.append_assoc, Url.trimEnd_append_cons (h.inert c hc).ne_slash]
    rfl

/-- A proper address below a path is a path again. -/
theorem isWritten_of_isProper (hplain : layout.IsPlain) {path : List Char}
    (hpath : UrlPath.IsWritten path) {q : Question} (proper : q.IsProper layout) :
    UrlPath.IsWritten (Endpoint.trimEnd path ++ '/' :: (q.address layout).toList) := by
  have hname {name : String} (hname : ∀ c ∈ name.toList, Percent.isUnreserved c = true)
      (hdot : name ≠ ".") (hdotDot : name ≠ "..") : Url.IsPlainName name.toList := by
    refine ⟨hname, fun h => hdot ?_, fun h => hdotDot ?_⟩
    · exact String.toList_inj.1 (h.trans (by decide))
    · exact String.toList_inj.1 (h.trans (by decide))
  have hcontrol (h : layout.connector ≠ "" ∧ layout.connector ≠ "." ∧ layout.connector ≠ "..") :
      UrlPath.IsWritten
        (Endpoint.trimEnd path ++ '/' :: (layout.connector ++ "/info").toList) := by
    obtain ⟨hempty, hdot, hdotDot⟩ := h
    have hconnector := hname hplain.connector hdot hdotDot
    have hne : layout.connector.toList ≠ [] := fun h => hempty (String.toList_eq_nil_iff.1 h)
    -- The address is two names, one behind the other, and no slash is dropped between them.
    have hall := isPlainName_info.isWritten_append (hconnector.isWritten_append hpath)
    have hkept := trimEnd_append_name hconnector hne (Endpoint.trimEnd path ++ ['/'])
    rw [List.append_assoc, List.singleton_append] at hkept
    rw [hkept, List.append_assoc, List.cons_append] at hall
    rwa [toList_controlAddress]
  cases q with
  | probe => exact hcontrol proper
  | info => exact hcontrol proper
  | artifact a => exact (hname (hplain.artifact a) proper.1 proper.2).isWritten_append hpath

/-- Hence the request goes below the base, on the same server. -/
theorem goesTo (hplain : layout.IsPlain) {a : Authority} (hu : u.IsWritten a)
    (hquery : u.query = none) (hfragment : u.fragment = none) {q : Question} {v : Url}
    (hv : Url.parse (q.url u.base layout).toList = .ok v) : q.GoesTo u layout v := by
  rw [toList_url, hu.parse_continued hquery hfragment (plain_address hplain q)] at hv
  obtain ⟨host, -, rfl⟩ := Outcome.map_eq_ok_iff.1 hv
  exact {
    eq := ⟨host, rfl⟩
    path := rfl
    path_of_isProper := fun proper =>
      (isWritten_of_isProper hplain hu.path proper).hierarchyPath_eq }

end Question

namespace Remote

variable {w : Web} {layout : Layout} {url : String} {u : Url}

/-- The place that the URL names is at its base, with the path of the control interface. -/
theorem isFor_of_ofUrl {e : Endpoint} (hu : Url.parse url.toList = .ok u)
    (hplain : layout.IsPlain) (he : Endpoint.ofUrl url layout = .ok e) :
    e.IsFor u.base layout := by
  unfold Endpoint.ofUrl at he
  rw [hu] at he
  cases he
  refine ⟨rfl, ?_⟩
  have hslash : ∀ c ∈ layout.connector.toList, Endpoint.isSlash c = false := fun c hc =>
    beq_false_of_ne (Percent.isInert_of_isUnreserved (hplain.connector c hc)).ne_slash
  show String.ofList (dropEndWhile Endpoint.isSlash
    (layout.connector.toList.dropWhile Endpoint.isSlash)) = layout.connector
  rw [dropWhile_eq_self hslash, dropEndWhile_eq_self hslash, String.ofList_toList]

/-- A URL with the scheme `http` is a base that can be asked. -/
theorem isHttpBase_of_parse (hu : Url.parse url.toList = .ok u) (http : u.scheme = "http".toList) :
    IsHttpBase u.base := by
  intro more v hv
  unfold Url.base at hv
  rw [String.toList_append, String.toList_ofList] at hv
  rw [Url.scheme_parse_below hu hv, http]

/-- **What is asked when a repository on the web is opened, and what it comes to.** Where no answer
is redirected, the questions are put in their order, one request for each, up to the first that
cannot be put or that fails; if there is none, kind and version of the repository are what the
answers say. So without the control interface it has announced a server opens no repository at all.
Each request goes to the URL of the repository with the address of the question behind its path. -/
theorem inquires_connect (hw : w.Unredirected) (hu : Url.parse url.toList = .ok u)
    (http : u.scheme = "http".toList) (hquery : u.query = none) (hfragment : u.fragment = none)
    (hplain : layout.IsPlain) :
    Inquires w u.base layout (fun r => Resolves w u.base layout r.state)
      (questions w u.base layout) (connect w layout url) ∧
    ((Question.probe.answer w u.base layout).status = 200 →
      ¬Question.info.Passes w u.base layout → ∃ d, (connect w layout url).outcome = .error d) ∧
    ∀ (q : Question) (v : Url),
      Url.parse (q.url u.base layout).toList = .ok v → q.GoesTo u layout v := by
  obtain ⟨a, ha⟩ := Url.isWritten_of_http hu http
  obtain ⟨e, he⟩ : ∃ e, Endpoint.ofUrl url layout = .ok e := by
    unfold Endpoint.ofUrl
    rw [hu]
    exact ⟨_, rfl⟩
  have hinquires := inquires_connect_of_isFor hw (isHttpBase_of_parse hu http) he
    (isFor_of_ofUrl hu hplain he)
  refine ⟨hinquires, fun hstatus hinfo => ?_, fun q v hv => ?_⟩
  · have hmem : Question.info ∈ questions w u.base layout := by
      unfold questions controlQuestions
      rw [if_pos hstatus]
      exact List.mem_cons_of_mem _ List.mem_cons_self
    exact hinquires.error_of_not_passes hmem hinfo
  · exact Question.goesTo hplain ha hquery hfragment hv

/-- A server without a control interface, and with a repository that was replicated once. -/
def plainWeb : Web where
  routes :=
    [⟨.get, .exactly "http://h/a.org/.cvmfspublished", { body := "Na.org\n".utf8 }⟩,
      ⟨.get, .exactly "http://h/a.org/.cvmfs_last_snapshot",
        { body := "2024-01-01T00:00:00Z\n".utf8 }⟩]

/-- Its marker makes it a replica. -/
theorem inquires_connect_plain :
    ∃ r, (connect plainWeb {} "HTTP://h/a.org/").outcome = .ok r ∧
      r.state.kind = .stratum1 ∧ r.state.version = "unknown" ∧
      (connect plainWeb {} "HTTP://h/a.org/").asked =
        [.request .head "http://h/a.org/control/info",
          .request .get "http://h/a.org/.cvmfspublished",
          .request .get "http://h/a.org/.cvmfs_last_snapshot",
          .request .get "http://h/a.org/.cvmfs_is_snapshotting"] := by
  have direct : plainWeb.Direct := by
    unfold Web.Direct
    decide +kernel
  have hu : Url.parse "HTTP://h/a.org/".toList = .ok ⟨"http".toList,
      some ⟨[], [], .domain ['h'], none⟩, "/a.org/".toList, none, none⟩ := by decide +kernel
  have hplain : Layout.IsPlain {} := by
    refine ⟨List.all_eq_true.1 (by decide +kernel), fun a => List.all_eq_true.1 ?_⟩
    cases a <;> decide +kernel
  have hok := Outcome.isOk_iff.1
    (show (connect plainWeb {} "HTTP://h/a.org/").outcome.isOk = true by decide +kernel)
  obtain ⟨hinquires, -, -⟩ := inquires_connect (Web.unredirected_of_direct direct) hu rfl
    rfl rfl hplain
  generalize hqs : questions plainWeb _ {} = qs at hinquires
  generalize connect plainWeb {} "HTTP://h/a.org/" = t at hok hinquires
  cases hinquires with
  | @answered _ r _ resolves =>
    obtain ⟨hversion, hkind, -⟩ := resolves.untold (by decide +kernel)
    refine ⟨r, rfl, hkind ?_, hversion, ?_⟩
    · unfold Answer.Succeeds
      decide +kernel
    · subst hqs
      show (questions plainWeb _ {}).map (Question.sent _ {}) = _
      decide +kernel
  | failed =>
    obtain ⟨r, hr⟩ := hok
    cases hr
  | unput =>
    obtain ⟨r, hr⟩ := hok
    cases hr

end Remote

end Stratum
