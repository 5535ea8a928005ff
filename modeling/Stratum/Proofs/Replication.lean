import Stratum.Proofs.Output
import Stratum.Proofs.Replica
import Stratum.Proofs.Tokens
import Stratum.Proofs.Verdict

/-!
# The command to replicate

One command orders a server to replicate a repository, when the repository has been opened and its
server is known to take orders. `Replicates` lists all that can come of that command; what is seen
of it is read off this list and off what the answer to an order comes to.

> `orders_replicate`: the order is given once and last, and what is said of it is true.
> `asks_execute`: no other command gives it.
-/

namespace Stratum

open Text

variable {layout : Layout} {url : String}

namespace CommandLine

variable {w : World}

/-- All that can come of the command: what is sent, and how it ends. -/
inductive Replicates (w : World) (layout : Layout) (url : String) :
    List Sent → Except Complaint Unit → Prop
  | unopened (f : Failure) (h : (Remote.connect w.web layout url).outcome = .error f) :
    Replicates w layout url (Remote.connect w.web layout url).asked
      (.error (opening url :: causes f))
  | unoffered (r : Remote) (h : (Remote.connect w.web layout url).outcome = .ok r)
      (hcontrol : r.endpoint.probed = some false) :
    Replicates w layout url (Remote.connect w.web layout url).asked
      (.error [r.display ++ " does not offer a control API"])
  | ordered (r : Remote) (h : (Remote.connect w.web layout url).outcome = .ok r)
      (hcontrol : r.endpoint.probed = some true) :
    Replicates w layout url
      ((Remote.connect w.web layout url).asked ++ (r.startReplication w.web).asked)
      ((r.startReplication w.web).outcome.mapError causes)

/-- What is seen to be sent of two parts of a run. -/
theorem sent_append (xs ys : List Event) : sent (xs ++ ys) = sent xs ++ sent ys :=
  List.filterMap_append

/-- What is seen of something remote is all that it asks for. -/
theorem sent_ofRemote {α : Type} (t : Trail Sent Failure α) : sent (ofRemote t).asked = t.asked := by
  show (t.asked.flatMap fun s => [Event.sent s]).filterMap _ = t.asked
  induction t.asked with
  | nil => rfl
  | cons s ss ih => exact congrArg (s :: ·) ih

/-- To say what is being done sends nothing. -/
theorem sent_within {α : Type} (what : String) (r : Run α) :
    sent (within what r).asked = sent r.asked := rfl

/-- A failure of something remote is told by its causes. -/
theorem outcome_ofRemote {α : Type} (t : Trail Sent Failure α) :
    (ofRemote t).outcome = t.outcome.mapError causes := rfl

/-- It is told behind what was being done. -/
theorem outcome_within {α : Type} (what : String) (r : Run α) :
    (within what r).outcome = r.outcome.mapError (what :: ·) := rfl

/-- What is sent is seen, however the run ends. -/
theorem sent_outcome (r : Run Unit) : (outcome r).sent = sent r.asked := by
  unfold outcome
  cases r.outcome <;> rfl

/-- To print something in the end changes neither what is sent nor how the run ends. -/
theorem then_print (r : Run Unit) (text : String) :
    sent (r >>= fun _ => print text).asked = sent r.asked ∧
      (r >>= fun _ => print text).outcome = r.outcome := by
  cases ho : r.outcome with
  | error c =>
    rw [Trail.bind_of_error ho]
    exact ⟨rfl, rfl⟩
  | ok a =>
    rw [Trail.bind_of_ok ho]
    exact ⟨(sent_append _ _).trans (List.append_nil _), rfl⟩

/-- **Nothing else comes of it.** -/
theorem replicates (w : World) (layout : Layout) (url : String) :
    Replicates w layout url (sent (replicate w layout url).asked)
      (replicate w layout url).outcome := by
  have hsent := sent_within (opening url) (ofRemote (Remote.connect w.web layout url))
  have houtcome := outcome_within (opening url) (ofRemote (Remote.connect w.web layout url))
  rw [sent_ofRemote] at hsent
  rw [outcome_ofRemote] at houtcome
  unfold replicate
  cases hconnect : (Remote.connect w.web layout url).outcome with
  | error f =>
    rw [hconnect] at houtcome
    rw [Trail.bind_of_error houtcome, hsent]
    exact .unopened f hconnect
  | ok r =>
    rw [hconnect] at houtcome
    obtain ⟨control, hcontrol⟩ := Remote.probed_of_connect hconnect
    -- The repository knows its control interface, so the question for it sends nothing.
    have hknown : ofRemote (pure (control, r)) = (pure (control, r) : Run (Bool × Remote)) := rfl
    rw [Trail.bind_of_ok houtcome, Remote.hasControl_of_probed hcontrol, sent_append, hsent, hknown,
      pure_bind]
    cases control with
    | false =>
      have hquiet : sent (complain (r.display ++ " does not offer a control API") : Run Unit).asked =
        [] := rfl
      simp only [Bool.not_false, if_true]
      rw [hquiet, List.append_nil]
      exact .unoffered r hconnect hcontrol
    | true =>
      obtain ⟨horder, hend⟩ := then_print (ofRemote (r.startReplication w.web))
        (Report.unlines ["Replication of " ++ r.state.fqrn ++ " started at " ++ r.display])
      simp only [Bool.not_true, Bool.false_eq_true, if_false]
      rw [horder, hend, sent_ofRemote, outcome_ofRemote]
      exact .ordered r hconnect hcontrol

/-! ## What is seen of it -/

/-- The server of a repository takes orders: the repository can be opened, and the probe of its
control interface is answered with 200. -/
structure Offers (w : Web) (layout : Layout) (url : String) (e : Endpoint) : Prop where
  place : Endpoint.ofUrl url layout = .ok e
  opened : ∃ r, (Remote.connect w layout url).outcome = .ok r
  probed : ∃ probe, (Endpoint.request w .head (e.controlUrl "info")).outcome = .ok probe ∧
    probe.status = 200

/-- It is known to take them when the repository has been opened. -/
theorem Offers.probed_eq {w : Web} {e : Endpoint} {r : Remote} (hoffers : Offers w layout url e)
    (h : (Remote.connect w layout url).outcome = .ok r) : r.endpoint.probed = some true := by
  obtain ⟨e', probe', he', hprobe', hendpoint⟩ := Remote.endpoint_of_connect h
  obtain ⟨probe, hprobe, hstatus⟩ := hoffers.probed
  have he : e' = e := Except.ok.inj (he'.symm.trans hoffers.place)
  rw [he] at hprobe'
  have hsame : probe' = probe := Except.ok.inj (hprobe'.symm.trans hprobe)
  rw [hendpoint, hsame, hstatus]
  rfl

/-- What is known then is the truth. -/
theorem offers_of_probed {w : Web} {r : Remote}
    (h : (Remote.connect w layout url).outcome = .ok r) (hcontrol : r.endpoint.probed = some true) :
    ∃ e, Offers w layout url e ∧ r.endpoint = e.probedAs true := by
  obtain ⟨e, probe, he, hprobe, hendpoint⟩ := Remote.endpoint_of_connect h
  rw [hendpoint] at hcontrol
  have hbeq : (probe.status == 200) = true := Option.some.inj hcontrol
  refine ⟨e, ⟨he, ⟨r, h⟩, probe, hprobe, beq_iff_eq.1 hbeq⟩, ?_⟩
  rw [hendpoint, hbeq]

/-- A run has failed for this cause, and this is what is seen of it in the end. -/
structure Outcome.FailsWith (o : Outcome) (r : Run Unit) (f : Failure) : Prop where
  failure : r.outcome = .error (causes f)
  exit : o.exit = 1
  output : o.output = ""
  complaint : o.complaint = complaintLines (causes f)

/-- What is seen of a command to replicate the repository at a URL. -/
structure Orders (w : World) (layout : Layout) (url : String) (o : Outcome) : Prop where
  /-- The order is given once at most, as the last thing that is sent, below the URL of the
  repository, and only to a server that takes orders. -/
  once : (∀ s ∈ o.sent, Looks url s) ∨
    ∃ before e u, o.sent = before ++ [.request .post (Client.sentUrl u)] ∧
      (∀ s ∈ before, Looks url s) ∧ Offers w.web layout url e ∧
      Url.parse (e.controlUrl "replicate").toList = .ok u
  /-- The command succeeds exactly if the order is given and the answer to it is `ok`. -/
  started : o.exit = 0 ↔ ∃ x reply, .request .post x ∈ o.sent ∧
    (w.web.answer .post x).Says (some reply) ∧ reply.result = some "ok"
  /-- It says so then. -/
  reported : o.exit = 0 → ∃ r, (Remote.connect w.web layout url).outcome = .ok r ∧
    o.output = Report.unlines
      ["Replication of " ++ r.state.fqrn ++ " started at " ++ r.endpoint.base]
  /-- An answer that says something else is a refusal. -/
  refused : ∀ x reply, .request .post x ∈ o.sent → (w.web.answer .post x).Says (some reply) →
    reply.result ≠ some "ok" →
    ∃ e, Endpoint.ofUrl url layout = .ok e ∧
      o.FailsWith (replicate w layout url) (.cannotReplicate e.base)
  /-- One that says nothing is no JSON. -/
  unreadable : ∀ x, .request .post x ∈ o.sent → (w.web.answer .post x).Says none →
    o.FailsWith (replicate w layout url) .badJson
  /-- One that does not count is a failure on the web. -/
  failed : ∀ x, .request .post x ∈ o.sent → ¬(w.web.answer .post x).Counts →
    ∃ d, o.FailsWith (replicate w layout url) (.http d)
  /-- So is an order that cannot be given, although the server would take it. -/
  withheld : (∃ e, Offers w.web layout url e) → (∀ x, .request .post x ∉ o.sent) →
    ∃ d, o.FailsWith (replicate w layout url) (.http d)

variable {o : Outcome}

/-- Where there were only looks, the command has failed, on the web if the server takes orders. -/
theorem orders_of_looks (hlooks : ∀ s ∈ o.sent, Looks url s) (hexit : o.exit = 1)
    (hwithheld : (∃ e, Offers w.web layout url e) →
      ∃ d, o.FailsWith (replicate w layout url) (.http d)) :
    Orders w layout url o := by
  have hnone (x : String) : .request .post x ∉ o.sent := fun hx =>
    not_looks_post url x (hlooks _ hx)
  have hfailed : o.exit ≠ 0 := by
    rw [hexit]
    exact Nat.one_ne_zero
  exact {
    once := Or.inl hlooks
    started := by
      constructor
      · intro h
        exact absurd h hfailed
      · rintro ⟨x, reply, hx, -⟩
        exact absurd hx (hnone x)
    reported := fun h => absurd h hfailed
    refused := fun x _ hx => absurd hx (hnone x)
    unreadable := fun x hx => absurd hx (hnone x)
    failed := fun x hx => absurd hx (hnone x)
    withheld := fun h _ => hwithheld h }

/-- Where an order was given behind the looks, the answer to it decides. -/
theorem orders_of_given {e : Endpoint} {u : Url} {before : List Sent} {result : Except Failure Unit}
    (hsent : o.sent = before ++ [.request .post (Client.sentUrl u)])
    (hbefore : ∀ s ∈ before, Looks url s) (hoffers : Offers w.web layout url e)
    (hu : Url.parse (e.controlUrl "replicate").toList = .ok u)
    (hsettles : (w.web.answer .post (Client.sentUrl u)).Settles e.base result)
    (hfail : ∀ f, result = .error f → o.FailsWith (replicate w layout url) f)
    (hdone : result = .ok () → o.exit = 0 ∧
      ∃ r, (Remote.connect w.web layout url).outcome = .ok r ∧ o.output = Report.unlines
        ["Replication of " ++ r.state.fqrn ++ " started at " ++ r.endpoint.base]) :
    Orders w layout url o := by
  have hgiven : .request .post (Client.sentUrl u) ∈ o.sent := by
    rw [hsent]
    exact List.mem_append_right _ (List.mem_singleton.2 rfl)
  -- The looks before it are no POSTs, so a POST that was sent is this one.
  have honly (x : String) (hx : .request .post x ∈ o.sent) : x = Client.sentUrl u := by
    rw [hsent] at hx
    rcases List.mem_append.1 hx with hx | hx
    · exact absurd (hbefore _ hx) (not_looks_post url x)
    · cases List.mem_singleton.1 hx
      rfl
  have hexit : o.exit = 0 ↔ result = .ok () := by
    constructor
    · intro hzero
      cases hresult : result with
      | ok _ => rfl
      | error f =>
        rw [(hfail f hresult).exit] at hzero
        cases hzero
    · intro hresult
      exact (hdone hresult).1
  exact {
    once := Or.inr ⟨before, e, u, hsent, hbefore, hoffers, hu⟩
    started := by
      rw [hexit, hsettles.eq_ok_iff]
      constructor
      · rintro ⟨reply, hword, hok⟩
        exact ⟨_, reply, hgiven, hword, hok⟩
      · rintro ⟨x, reply, hx, hword, hok⟩
        cases honly x hx
        exact ⟨reply, hword, hok⟩
    reported := fun hzero => (hdone (hexit.1 hzero)).2
    refused := by
      intro x reply hx hword other
      cases honly x hx
      exact ⟨e, hoffers.place, hfail _ (hsettles.eq_of_other hword other)⟩
    unreadable := by
      intro x hx hword
      cases honly x hx
      exact hfail _ (hsettles.eq_of_none hword)
    failed := by
      intro x hx hcounts
      cases honly x hx
      obtain ⟨d, hd⟩ := hsettles.eq_of_not_counts hcounts
      exact ⟨d, hfail _ hd⟩
    withheld := fun _ hnone => absurd hgiven (hnone _) }

/-- What is sent to a server that takes orders: what it takes to open the repository, and then the
order, if it can be given. -/
theorem sent_of_offers {e : Endpoint} (hoffers : Offers w.web layout url e) :
    (outcome (replicate w layout url)).sent = (Remote.connect w.web layout url).asked ++
      (Endpoint.request w.web .post (e.controlUrl "replicate")).asked := by
  have hcase := replicates w layout url
  rw [sent_outcome]
  generalize sent (replicate w layout url).asked = s at hcase
  generalize (replicate w layout url).outcome = x at hcase
  cases hcase with
  | unopened f h =>
    obtain ⟨r, hr⟩ := hoffers.opened
    rw [h] at hr
    cases hr
  | unoffered r h hcontrol =>
    have hprobed := hoffers.probed_eq h
    rw [hcontrol] at hprobed
    cases hprobed
  | ordered r h hcontrol =>
    obtain ⟨e', hoffers', hendpoint⟩ := offers_of_probed h hcontrol
    have he : e' = e := Except.ok.inj (hoffers'.place.symm.trans hoffers.place)
    rw [Remote.asked_startReplication, hendpoint, he]
    rfl

/-- **The order to replicate is given once at most, and what is said of it is true.** -/
theorem orders_replicate (direct : w.web.Direct) (layout : Layout) (url : String) :
    Orders w layout url (outcome (replicate w layout url)) := by
  have hlooks := Remote.looks_connect direct layout url
  have hdelivers := delivers_replicate w layout url
  have hcase := replicates w layout url
  generalize hs : sent (replicate w layout url).asked = s at hcase
  generalize hx : (replicate w layout url).outcome = x at hcase
  cases hcase with
  | unopened f h =>
    rw [outcome_of_error hdelivers hx, hs]
    refine orders_of_looks hlooks rfl ?_
    rintro ⟨e, hoffers⟩
    obtain ⟨r, hr⟩ := hoffers.opened
    rw [h] at hr
    cases hr
  | unoffered r h hcontrol =>
    rw [outcome_of_error hdelivers hx, hs]
    refine orders_of_looks hlooks rfl ?_
    rintro ⟨e, hoffers⟩
    have hprobed := hoffers.probed_eq h
    rw [hcontrol] at hprobed
    cases hprobed
  | ordered r h hcontrol =>
    obtain ⟨e, hoffers, hendpoint⟩ := offers_of_probed h hcontrol
    have hat : r.endpoint.IsAt url := by
      rw [hendpoint]
      exact (Endpoint.isAt_of_ofUrl hoffers.place).of_base rfl
    have hfail (f : Failure) (hf : (r.startReplication w.web).outcome = .error f) :
        (outcome (replicate w layout url)).FailsWith (replicate w layout url) f := by
      rw [hf] at hx
      rw [outcome_of_error hdelivers hx]
      exact ⟨hx, rfl, rfl, rfl⟩
    have hdone (hok : (r.startReplication w.web).outcome = .ok ()) :
        (outcome (replicate w layout url)).exit = 0 ∧
          ∃ r, (Remote.connect w.web layout url).outcome = .ok r ∧
            (outcome (replicate w layout url)).output = Report.unlines
              ["Replication of " ++ r.state.fqrn ++ " started at " ++ r.endpoint.base] := by
      rw [hok] at hx
      obtain ⟨out, ⟨r', hr', -, hout⟩, hseen⟩ := outcome_of_ok hdelivers hx
      rw [hseen]
      exact ⟨rfl, r', hr', hout⟩
    have hseen : (outcome (replicate w layout url)).sent =
        (Remote.connect w.web layout url).asked ++ (r.startReplication w.web).asked := by
      rw [sent_of_offers hoffers, Remote.asked_startReplication, hendpoint]
      rfl
    rcases Remote.order_of_direct direct hat with ⟨hlook, d, hd⟩ | ⟨u, hu, hasked, hsettles⟩
    · -- the order could not be given
      refine orders_of_looks ?_ (hfail _ hd).exit fun _ => ⟨d, hfail _ hd⟩
      intro s hs
      rw [hseen] at hs
      rcases List.mem_append.1 hs with hs | hs
      · exact hlooks s hs
      · exact hlook s hs
    · rw [hasked] at hseen
      rw [hendpoint] at hu hsettles
      exact orders_of_given hseen hlooks hoffers hu hsettles hfail hdone

/-! ## What is seen of any command -/

/-- What is seen to be sent in a run of a command. -/
def Asks (w : World) (layout : Layout) (o : Outcome) : Command → Prop
  | .list _ => o.sent = []
  | .info repo => (¬"://".toList <:+: repo.toList → o.sent = []) ∧ ∀ s ∈ o.sent, Looks repo s
  | .replicate url => Orders w layout url o
  | .checkReplica url => ∀ s ∈ o.sent, Looks url s

/-- What a command sends is seen. -/
theorem asks_runCommand (direct : w.web.Direct) (layout : Layout) (command : Command) :
    Asks w layout (outcome (runCommand w layout command)) command := by
  cases command with
  | list stratum0 =>
    show (outcome (list w layout stratum0)).sent = []
    rw [sent_outcome]
    exact (unsent_list w layout stratum0).sent_eq_nil
  | info repo =>
    show (_ → (outcome (info w layout repo)).sent = []) ∧
      ∀ s ∈ (outcome (info w layout repo)).sent, _
    rw [sent_outcome]
    refine ⟨fun hmark => ?_, fun s hs => (looks_info direct layout repo).of_mem hs⟩
    exact (unsent_info (isUrl_eq_false_iff.2 hmark) w layout).sent_eq_nil
  | replicate url => exact orders_replicate direct layout url
  | checkReplica url =>
    show ∀ s ∈ (outcome (checkReplica w layout url)).sent, _
    rw [sent_outcome]
    exact fun s hs => (looks_checkReplica direct layout url).of_mem hs

/-- **Replication is ordered by one command only, at most once, and reported truthfully**, where no
answer of the web leads elsewhere. Other commands only look at what is on the web, and do not even
that for the repositories of this machine. Without a layout nothing is sent at all. -/
theorem asks_execute (direct : w.web.Direct) {args : List String} {path : Option String}
    {command : Command} (hargs : parse args = .run ⟨path, command⟩) :
    (∀ f, Layout.load w.files path = .error f →
      (execute w args).exit = 1 ∧ (execute w args).sent = []) ∧
    ∀ layout, Layout.load w.files path = .ok layout →
      Asks w layout (execute w args) command := by
  refine ⟨fun f hload => ?_, fun layout hload => ?_⟩
  · have hfail : (within "Failed to load configuration"
        (ofLocal (Layout.load w.files path))).outcome =
          .error ("Failed to load configuration" :: causes f) := by
      rw [hload]
      rfl
    unfold execute
    rw [hargs]
    show (outcome (run w ⟨path, command⟩)).exit = 1 ∧ (outcome (run w ⟨path, command⟩)).sent = []
    unfold run
    rw [Trail.bind_of_error hfail]
    exact ⟨rfl, rfl⟩
  · rw [execute_of_parse hargs hload]
    exact asks_runCommand direct layout command

/-- What a server says of itself that takes orders. -/
def orderedInfo : Bytes := "\x7b\"type\":\"stratum1\",\"version\":\"5\"\x7d".utf8

/-- What it says when it has taken one. -/
def orderedReply : Bytes := "\x7b\"result\":\"ok\"\x7d".utf8

/-- That server, with one repository. -/
def orderedWeb : Web where
  routes :=
    [⟨.post, .exactly "http://h/a.org/control/replicate", { body := orderedReply }⟩,
      ⟨.get, .exactly "http://h/a.org/control/info", { body := orderedInfo }⟩,
      ⟨.get, .exactly "http://h/a.org/.cvmfspublished", { body := "Na.org\n".utf8 }⟩]

/-- It takes orders. -/
theorem offers_orderedWeb :
    Offers orderedWeb {} "http://h/a.org" ⟨"http://h/a.org", "control", none⟩ := by
  have hurl : Endpoint.ofUrl "http://h/a.org" {} = .ok ⟨"http://h/a.org", "control", none⟩ := by
    decide +kernel
  have hprobe : (Endpoint.request orderedWeb .head
      (Endpoint.controlUrl ⟨"http://h/a.org", "control", none⟩ "info")).outcome.map (·.status) =
        .ok 200 := by decide +kernel
  have hinfo : (Endpoint.request orderedWeb .get
      (Endpoint.controlUrl ⟨"http://h/a.org", "control", none⟩ "info")).outcome.map
        (fun r => (r.isRefusal, r.cut, r.body)) = .ok (false, false, orderedInfo) := by
    decide +kernel
  have hread : Json.decode? Control.Info.ofJson? orderedInfo = some ⟨"stratum1", "5"⟩ := by
    unfold Json.decode? Json.ofBytes?
    rw [← Json.tokensWithin?_eq (Nat.le_refl _)]
    decide +kernel
  obtain ⟨probe, hhead, hstatus⟩ := Outcome.map_eq_ok_iff.1 hprobe
  obtain ⟨r, hget, hr⟩ := Outcome.map_eq_ok_iff.1 hinfo
  obtain ⟨hrefusal, hcut, hbody⟩ : r.isRefusal = false ∧ r.cut = false ∧ r.body = orderedInfo := by
    simpa using hr
  have hreply := Endpoint.readReply_eq_ok_iff.2 ⟨hrefusal, hcut, hbody ▸ hread⟩
  refine ⟨hurl, ?_, probe, hhead, hstatus⟩
  -- What is left is discovery, which reads no JSON and can be run.
  rw [Remote.outcome_connect, hurl, Outcome.ok_bind, Endpoint.outcome_identify rfl, hhead,
    Outcome.ok_bind, if_pos hstatus, hget, Outcome.ok_bind, hreply]
  exact Outcome.isOk_iff.1 (by decide +kernel)

/-- The order is the last thing that is sent there, and the command succeeds. -/
theorem asks_execute_ordered :
    orderedWeb.Direct ∧
    parse ["replicate", "http://h/a.org"] = .run ⟨none, .replicate "http://h/a.org"⟩ ∧
    .request .post "http://h/a.org/control/replicate" ∈
      (execute ⟨Files.bare, orderedWeb⟩ ["replicate", "http://h/a.org"]).sent ∧
    (execute ⟨Files.bare, orderedWeb⟩ ["replicate", "http://h/a.org"]).exit = 0 := by
  have direct : orderedWeb.Direct := by
    unfold Web.Direct
    decide +kernel
  have hargs : parse ["replicate", "http://h/a.org"] =
      .run ⟨none, .replicate "http://h/a.org"⟩ := by decide +kernel
  have hlayout : Layout.load Files.bare none = .ok {} := rfl
  have hexecute : execute ⟨Files.bare, orderedWeb⟩ ["replicate", "http://h/a.org"] =
      outcome (replicate ⟨Files.bare, orderedWeb⟩ {} "http://h/a.org") :=
    execute_of_parse hargs hlayout
  have hgiven : .request .post "http://h/a.org/control/replicate" ∈
      (execute ⟨Files.bare, orderedWeb⟩ ["replicate", "http://h/a.org"]).sent := by
    rw [hexecute, sent_of_offers offers_orderedWeb]
    refine List.mem_append_right _ ?_
    decide +kernel
  have hword : (orderedWeb.answer .post "http://h/a.org/control/replicate").Says
      (some ⟨some "ok"⟩) := by
    refine ⟨?_, ?_⟩
    · unfold Answer.Counts
      decide +kernel
    · unfold Json.decode? Json.ofBytes?
      rw [← Json.tokensWithin?_eq (Nat.le_refl _)]
      decide +kernel
  have horders : Orders ⟨Files.bare, orderedWeb⟩ {} "http://h/a.org"
      (execute ⟨Files.bare, orderedWeb⟩ ["replicate", "http://h/a.org"]) :=
    (asks_execute (w := ⟨Files.bare, orderedWeb⟩) direct hargs).2 {} hlayout
  exact ⟨direct, hargs, hgiven, horders.started.2 ⟨_, _, hgiven, hword, rfl⟩⟩

end CommandLine

end Stratum
