import Stratum.Proofs.Addresses
import Stratum.Proofs.Findings
import Stratum.Proofs.Verdict

/-!
# Questions to a server

To open a repository on the web, its server is asked a few questions in a fixed order: whether it
has a control interface, what that says if there is one, and then for the artifacts (`questions`).
Where no answer is redirected, each question is one request. Which of them fails is said by
`Question.Fails` in terms of the answers alone, and `Inquires` says what it is to put questions in
order.

> `Inquires.bind`: what is asked in two steps is what is asked in the first, and then in the second.
> `Endpoint.requested`: a request is sent once, or it cannot be sent.
-/

namespace Stratum

open Text

namespace Web

/-- No answer is a redirect that is followed. -/
def Unredirected (w : Web) : Prop :=
  ∀ m u, Client.redirect? u (w.answer m (Client.sentUrl u)) = none

/-- So it is where no answer leads elsewhere. -/
theorem unredirected_of_direct {w : Web} (h : w.Direct) : w.Unredirected :=
  fun m u => Client.redirect?_of_direct h m _ u

/-- A request for the URL can be made, and arrives somewhere. -/
def CanBeAsked (w : Web) (url : String) : Prop :=
  w.up = true ∧
    ∃ v, Url.parse url.toList = .ok v ∧ Client.isRequestable (Client.hideUser v) = true

end Web

/-- The status is one of success. -/
def Answer.Succeeds (a : Answer) : Prop := 200 ≤ a.status ∧ a.status < 300

/-- The URL in a request for a URL, as the client has it. -/
def Client.target (url : String) : String :=
  match Url.parse url.toList with
  | .ok v => sentUrl v
  | .error _ => url

/-! ## Questions -/

/-- A question that is put to a server while a repository is opened. -/
inductive Question where
  /-- Whether there is a control interface. -/
  | probe
  /-- What the control interface says. -/
  | info
  | artifact (a : Artifact)
deriving DecidableEq

namespace Question

variable (w : Web) (base : String) (layout : Layout)

/-- Only the first question does without a body. -/
def method : Question → Method
  | probe => .head
  | info => .get
  | artifact _ => .get

/-- What stands behind the URL of the repository and a slash. -/
def address (layout : Layout) : Question → String
  | probe => layout.connector ++ "/info"
  | info => layout.connector ++ "/info"
  | artifact a => a.name layout

/-- The URL of what is asked for. -/
def url (q : Question) : String := base ++ "/" ++ q.address layout

/-- The request for it. -/
def sent (q : Question) : Sent := .request q.method (Client.target (q.url base layout))

/-- The answer to that request. -/
def answer (q : Question) : Answer := w.answer q.method (Client.target (q.url base layout))

/-- All that can be wrong with an answer. -/
inductive Fails : Question → Prop
  | lost {q : Question} (h : (q.answer w base layout).breakage = some .connection) : Fails q
  /-- What the control interface says was refused, or was cut short. -/
  | refused (h : ¬(info.answer w base layout).Counts) : Fails info
  | undecodable (h : Json.decode? Control.Info.ofJson? (info.answer w base layout).body = none) :
    Fails info
  /-- Without a manifest there is no repository; a marker may be missing. -/
  | missing (h : ¬((artifact .manifest).answer w base layout).Succeeds) : Fails (artifact .manifest)
  | curtailed {a : Artifact} (h : ((artifact a).answer w base layout).Succeeds)
    (hcut : ((artifact a).answer w base layout).breakage = some .body) : Fails (artifact a)
  | noManifest {cause : ManifestError} (h : ((artifact .manifest).answer w base layout).Succeeds)
    (hread : Manifest.ofBytes ((artifact .manifest).answer w base layout).body = .error cause) :
    Fails (artifact .manifest)
  | noMarker {a : Artifact} {d : Failure} (marker : a ≠ .manifest)
    (h : ((artifact a).answer w base layout).Succeeds)
    (hread : Source.readMarker ((artifact a).answer w base layout).body = .error d) :
    Fails (artifact a)

/-- The question can be put, and its answer is good. -/
structure Passes (q : Question) : Prop where
  canBeAsked : w.CanBeAsked (q.url base layout)
  sound : ¬q.Fails w base layout

end Question

section

variable (w : Web) (base : String) (layout : Layout)

/-- The questions about the control interface. The second is only put if the answer to the first has
the status 200. -/
def controlQuestions : List Question :=
  [.probe] ++ if (Question.probe.answer w base layout).status = 200 then [.info] else []

/-- All the questions in their order. -/
def questions : List Question := controlQuestions w base layout ++ Artifact.all.map .artifact

/-- A computation puts these questions, one after another, up to the first that cannot be put or
that fails. If there is none, it has a good result. -/
inductive Inquires {α : Type} (good : α → Prop) :
    List Question → Trail Sent Failure α → Prop
  | answered {qs : List Question} {a : α} (passes : ∀ q ∈ qs, q.Passes w base layout)
    (h : good a) : Inquires good qs ⟨qs.map (Question.sent base layout), .ok a⟩
  | failed {before after : List Question} {q : Question} {d : Failure}
    (passes : ∀ b ∈ before, b.Passes w base layout) (put : w.CanBeAsked (q.url base layout))
    (fails : q.Fails w base layout) :
    Inquires good (before ++ q :: after) ⟨(before ++ [q]).map (Question.sent base layout), .error d⟩
  | unput {before after : List Question} {q : Question} {d : Failure}
    (passes : ∀ b ∈ before, b.Passes w base layout) (h : ¬w.CanBeAsked (q.url base layout)) :
    Inquires good (before ++ q :: after) ⟨before.map (Question.sent base layout), .error d⟩

end

/-! ## Steps in a row -/

namespace Inquires

variable {w : Web} {base : String} {layout : Layout} {α β : Type} {good : α → Prop}
variable {good' : β → Prop} {qs qs' : List Question}

/-- Asking nothing gives what is there already. -/
theorem nothing {a : α} (h : good a) : Inquires w base layout good [] (pure a) :=
  .answered (List.forall_mem_nil _) h

/-- **What is asked in two steps** is what is asked in the first, and if all of it passes, then what
is asked in the second. -/
theorem bind {t : Trail Sent Failure α} {f : α → Trail Sent Failure β}
    (ht : Inquires w base layout good qs t)
    (hf : ∀ a, good a → Inquires w base layout good' qs' (f a)) :
    Inquires w base layout good' (qs ++ qs') (t >>= f) := by
  cases ht with
  | @answered _ a passes h =>
    have hall {more : List Question} (hmore : ∀ q ∈ more, q.Passes w base layout) :
        ∀ q ∈ qs ++ more, q.Passes w base layout := by
      intro q hq
      rcases List.mem_append.1 hq with hq | hq
      · exact passes q hq
      · exact hmore q hq
    rw [Trail.bind_of_ok rfl]
    have hnext := hf a h
    generalize f a = t at hnext
    -- Where the second step stops, the questions of the first are among those before it.
    cases hnext with
    | answered passes' h' =>
      rw [← List.map_append]
      exact .answered (hall passes') h'
    | failed passes' put fails =>
      rw [← List.map_append, ← List.append_assoc, ← List.append_assoc]
      exact .failed (hall passes') put fails
    | unput passes' h' =>
      rw [← List.map_append, ← List.append_assoc]
      exact .unput (hall passes') h'
  -- Where the first step stops, those of the second are among those behind it.
  | failed passes put fails =>
    rw [Trail.bind_of_error rfl, List.append_assoc, List.cons_append]
    exact .failed passes put fails
  | unput passes h =>
    rw [Trail.bind_of_error rfl, List.append_assoc, List.cons_append]
    exact .unput passes h

/-- A question that does not pass makes the whole fail. -/
theorem error_of_not_passes {t : Trail Sent Failure α} (ht : Inquires w base layout good qs t)
    {q : Question} (hq : q ∈ qs) (h : ¬q.Passes w base layout) : ∃ d, t.outcome = .error d := by
  cases ht with
  | answered passes _ => exact absurd (passes q hq) h
  | failed => exact ⟨_, rfl⟩
  | unput => exact ⟨_, rfl⟩

end Inquires

/-! ## One request -/

/-- A URL of this scheme has a host. -/
theorem Url.hasHost_of_parse {s : List Char} {v : Url} (h : Url.parse s = .ok v)
    (http : v.scheme = "http".toList) : v.hasHost = true := by
  obtain ⟨a, ha⟩ := Url.isWritten_of_http h http
  have hempty : a.host.text.isEmpty = false :=
    List.isEmpty_eq_false_iff.2 ha.authority.host.ne_nil
  unfold Url.hasHost
  rw [ha.authority_eq, Option.any_some, hempty]
  rfl

namespace Client

variable {w : Web} {m : Method} {u : Url}

/-- A URL of the web is asked without its user, if it can be asked. -/
theorem send_of_hasHost (hhost : u.hasHost = true)
    (hscheme : u.scheme = "http".toList ∨ u.scheme = "https".toList) :
    send w m u = if isRequestable (hideUser u) = true then follow w redirectLimit m (hideUser u)
      else Trail.fail (.building (String.ofList (hideUser u).text)) := by
  have hspoken : isSpoken (hideUser u) = true := by
    unfold isSpoken
    rw [scheme_hideUser]
    rcases hscheme with hscheme | hscheme
    · rw [hscheme]
      decide
    · rw [hscheme]
      decide
  unfold send
  rw [hhost]
  dsimp only
  rw [hspoken, Bool.true_and]
  rfl

/-- No answer leads elsewhere, so there is one request. -/
theorem follow_of_unredirected (hw : w.Unredirected) (n : Nat) (m : Method) (u : Url) :
    follow w n m u = transmit w m u >>= fun a => pure (responseOf u a) := by
  have hproceed : proceed w n m u (w.answer m (sentUrl u)) =
      pure (responseOf u (w.answer m (sentUrl u))) := by
    unfold proceed
    rw [hw m u]
  rw [follow_eq]
  -- Only an answer can be redirected, and no answer is.
  have hcase := transmission w m u
  generalize transmit w m u = t at hcase
  cases hcase with
  | down d _ => rfl
  | shut d _ _ => rfl
  | lost d _ => rfl
  | answered _ => rw [Trail.bind_of_ok rfl, hproceed, Trail.bind_of_ok rfl]

theorem transmit_of_unsecured (unsecured : u.scheme ≠ "https".toList) (w : Web) (m : Method) :
    (w.up = false ∧ ∃ d, transmit w m u = Trail.of (.error d)) ∨
    (w.up = true ∧ (w.answer m (sentUrl u)).breakage = some .connection ∧
      ∃ d, transmit w m u = Trail.ask (.request m (sentUrl u)) (.error d)) ∨
    (w.up = true ∧ (w.answer m (sentUrl u)).breakage ≠ some .connection ∧
      transmit w m u = Trail.ask (.request m (sentUrl u)) (.ok (w.answer m (sentUrl u)))) := by
  unfold transmit isShut
  rw [beq_false_of_ne unsecured]
  cases hup : w.up with
  | false => exact Or.inl ⟨rfl, _, rfl⟩
  | true =>
    by_cases h : (w.answer m (sentUrl u)).breakage = some .connection
    · refine Or.inr (Or.inl ⟨rfl, h, .sending (String.ofList u.text), ?_⟩)
      dsimp only
      rw [if_pos h]
      rfl
    · refine Or.inr (Or.inr ⟨rfl, h, ?_⟩)
      dsimp only
      rw [if_neg h]
      rfl

end Client

namespace Endpoint

/-- All that becomes of a request where no answer is redirected. -/
inductive Requested (w : Web) (m : Method) (url : String) : Trail Sent Failure Response → Prop
  | unput (h : ¬w.CanBeAsked url) (d : HttpError) : Requested w m url (Trail.of (.error (.http d)))
  | lost (put : w.CanBeAsked url)
    (h : (w.answer m (Client.target url)).breakage = some .connection) (d : HttpError) :
    Requested w m url (Trail.ask (.request m (Client.target url)) (.error (.http d)))
  | answered (put : w.CanBeAsked url)
    (h : (w.answer m (Client.target url)).breakage ≠ some .connection) (v : Url) :
    Requested w m url (Trail.ask (.request m (Client.target url))
      (.ok (Client.responseOf v (w.answer m (Client.target url)))))

variable {w : Web}

/-- **One request** is sent if it can be, and the answer counts if it came. -/
theorem requested (hw : w.Unredirected) (m : Method) {url : String}
    (http : ∀ v, Url.parse url.toList = .ok v → v.scheme = "http".toList) :
    Requested w m url (request w m url) := by
  unfold request
  cases hparse : Url.parse url.toList with
  | error e =>
    refine .unput ?_ _
    rintro ⟨-, v, hv, -⟩
    rw [hparse] at hv
    cases hv
  | ok v =>
    have hscheme := http v hparse
    have htarget : Client.target url = Client.sentUrl (Client.hideUser v) := by
      unfold Client.target
      rw [hparse, Client.sentUrl_hideUser]
    have hcan : w.CanBeAsked url ↔
        w.up = true ∧ Client.isRequestable (Client.hideUser v) = true := by
      refine and_congr_right fun _ => ⟨?_, fun h => ⟨v, hparse, h⟩⟩
      rintro ⟨v', hv', h⟩
      rw [hparse] at hv'
      exact Except.ok.inj hv' ▸ h
    have hhost := Url.hasHost_of_parse hparse hscheme
    dsimp only
    rw [Client.send_of_hasHost hhost (Or.inl hscheme)]
    by_cases hrequestable : Client.isRequestable (Client.hideUser v) = true
    · rw [if_pos hrequestable, Client.follow_of_unredirected hw]
      have unsecured : (Client.hideUser v).scheme ≠ "https".toList := by
        rw [Client.scheme_hideUser, hscheme]
        decide
      rcases Client.transmit_of_unsecured unsecured w m with
        ⟨hup, d, htransmit⟩ | ⟨hup, h, d, htransmit⟩ | ⟨hup, h, htransmit⟩
      · rw [htransmit]
        refine .unput (fun hput => ?_) d
        exact Bool.false_ne_true (hup.symm.trans (hcan.1 hput).1)
      · rw [htransmit, ← htarget]
        exact .lost (hcan.2 ⟨hup, hrequestable⟩) (htarget ▸ h) d
      · rw [htransmit, ← htarget]
        exact .answered (hcan.2 ⟨hup, hrequestable⟩) (htarget ▸ h) (Client.hideUser v)
    · rw [if_neg hrequestable]
      exact .unput (fun hput => hrequestable (hcan.1 hput).2) _

end Endpoint

end Stratum
