import Stratum.Proofs.Looking

/-!
# What an order comes to

A server replicates when it is sent a POST, and that is the only thing that anything here changes on
the web. What comes of such an order is read off its answer: `Answer.Settles` lists it, case by case,
and each case is met by one sort of answers only. Where no answer leads elsewhere, the order is one
request, or none if it cannot be sent.

> `settles_verdict`: nothing comes of an answer but what is listed.
> `Remote.order_of_direct`: an order is given once, or it cannot be given.
-/

namespace Stratum

open Text

variable {url : String}

/-! ## The answer -/

namespace Answer

/-- An answer counts if all of it came and it is no refusal. -/
def Counts (a : Answer) : Prop := a.breakage = none ∧ ¬(400 ≤ a.status ∧ a.status < 600)

/-- It counts, and this is what it says about the order, if it can be read at all. -/
def Says (a : Answer) (reply? : Option Control.Reply) : Prop :=
  a.Counts ∧ Json.decode? Control.Reply.ofJson? a.body = reply?

/-- It says one thing. -/
theorem Says.unique {a : Answer} {x y : Option Control.Reply} (hx : a.Says x) (hy : a.Says y) :
    x = y := hx.2.symm.trans hy.2

/-- All that can come of an order to the repository at a place that is answered so. -/
inductive Settles (a : Answer) (base : String) : Except Failure Unit → Prop
  | started (reply : Control.Reply) (h : a.Says (some reply)) (ok : reply.result = some "ok") :
    Settles a base (.ok ())
  | refused (reply : Control.Reply) (h : a.Says (some reply)) (other : reply.result ≠ some "ok") :
    Settles a base (.error (.cannotReplicate base))
  | unreadable (h : a.Says none) : Settles a base (.error .badJson)
  | failed (d : HttpError) (h : ¬a.Counts) : Settles a base (.error (.http d))

namespace Settles

variable {a : Answer} {base : String} {result : Except Failure Unit}

/-- Only the answer `ok` starts a replication. -/
theorem eq_ok_iff (h : Settles a base result) :
    result = .ok () ↔ ∃ reply, a.Says (some reply) ∧ reply.result = some "ok" := by
  cases h with
  | started reply h ok => exact iff_of_true rfl ⟨reply, h, ok⟩
  | refused reply h other =>
    refine iff_of_false (fun h => by cases h) ?_
    rintro ⟨reply', h', ok⟩
    cases h.unique h'
    exact other ok
  | unreadable h =>
    refine iff_of_false (fun h => by cases h) ?_
    rintro ⟨reply', h', -⟩
    cases h.unique h'
  | failed d h =>
    refine iff_of_false (fun h => by cases h) ?_
    rintro ⟨reply', h', -⟩
    exact h h'.1

/-- Any other answer that can be read is a refusal. -/
theorem eq_of_other (h : Settles a base result) {reply : Control.Reply} (hword : a.Says (some reply))
    (other : reply.result ≠ some "ok") : result = .error (.cannotReplicate base) := by
  cases h with
  | started reply' h' ok =>
    cases h'.unique hword
    exact absurd ok other
  | refused reply' h' other' => rfl
  | unreadable h' => cases h'.unique hword
  | failed d h' => exact absurd hword.1 h'

/-- One that cannot be read is no JSON. -/
theorem eq_of_none (h : Settles a base result) (hword : a.Says none) : result = .error .badJson := by
  cases h with
  | started reply h' ok => cases h'.unique hword
  | refused reply h' other => cases h'.unique hword
  | unreadable h' => rfl
  | failed d h' => exact absurd hword.1 h'

/-- One that does not count is a failure on the web. -/
theorem eq_of_not_counts (h : Settles a base result) (hcounts : ¬a.Counts) :
    ∃ d, result = .error (.http d) := by
  cases h with
  | started reply h' ok => exact absurd h'.1 hcounts
  | refused reply h' other => exact absurd h'.1 hcounts
  | unreadable h' => exact absurd h'.1 hcounts
  | failed d h' => exact ⟨d, rfl⟩

end Settles

end Answer

namespace Endpoint

variable {w : Web} {e : Endpoint}

/-- What the answer to an order says. -/
def verdict (base : String) (r : Response) : Except Failure Unit :=
  readReply Control.Reply.ofJson? r >>= fun reply =>
    if reply.isOk then .ok () else .error (.cannotReplicate base)

/-- An answer that came counts exactly if it is read any further than its status and its end. -/
theorem counts_iff {a : Answer} (h : a.breakage ≠ some .connection) (v : Url) :
    a.Counts ↔ (Client.responseOf v a).isRefusal = false ∧ (Client.responseOf v a).cut = false := by
  have hrefusal : (Client.responseOf v a).isRefusal = true ↔ 400 ≤ a.status ∧ a.status < 600 := by
    unfold Response.isRefusal
    rw [Bool.and_eq_true, decide_eq_true_eq, decide_eq_true_eq]
    exact Iff.rfl
  have hcut : (Client.responseOf v a).cut = true ↔ a.breakage = some .body := decide_eq_true_iff
  have hwhole : a.breakage = none ↔ ¬a.breakage = some .body := by
    cases hb : a.breakage with
    | none => simp
    | some b =>
      cases b with
      | connection => exact absurd hb h
      | body => simp
  unfold Answer.Counts
  rw [hwhole, ← hrefusal, ← hcut, Bool.not_eq_true, Bool.not_eq_true]
  exact and_comm

/-- **Nothing else comes of it.** -/
theorem settles_verdict {a : Answer} (h : a.breakage ≠ some .connection) (base : String) (v : Url) :
    a.Settles base (verdict base (Client.responseOf v a)) := by
  have hcounts := counts_iff h v
  unfold verdict readReply
  cases hrefusal : (Client.responseOf v a).isRefusal with
  | true =>
    rw [hrefusal] at hcounts
    exact .failed _ fun h => by cases (hcounts.1 h).1
  | false =>
    cases hcut : (Client.responseOf v a).cut with
    | true =>
      rw [hcut] at hcounts
      exact .failed _ fun h => by cases (hcounts.1 h).2
    | false =>
      have hall : a.Counts := hcounts.2 ⟨hrefusal, hcut⟩
      simp only [Bool.false_eq_true, if_false]
      cases hread : Json.decode? Control.Reply.ofJson? (Client.responseOf v a).body with
      | none => exact .unreadable ⟨hall, hread⟩
      | some reply =>
        rw [Outcome.ok_bind]
        by_cases hok : reply.isOk = true
        · rw [if_pos hok]
          exact .started reply ⟨hall, hread⟩ (Control.Reply.isOk_iff.1 hok)
        · rw [if_neg hok]
          refine .refused reply ⟨hall, hread⟩ fun hresult => ?_
          exact hok (Control.Reply.isOk_iff.2 hresult)

end Endpoint

/-! ## The order -/

namespace Remote

variable {w : Web} {r : Remote}

/-- To give the order is to send one request. -/
theorem asked_startReplication (w : Web) (r : Remote) :
    (r.startReplication w).asked =
      (Endpoint.request w .post (r.endpoint.controlUrl "replicate")).asked := by
  have hquiet (reply : Control.Reply) : (if reply.isOk then return ()
      else Trail.fail (.cannotReplicate r.endpoint.base) : Trail Sent Failure Unit).asked = [] := by
    split <;> rfl
  unfold startReplication
  rw [Trail.asked_bind_of_quiet hquiet, Endpoint.asked_call]

/-- What comes of it is what the answer says. -/
theorem outcome_startReplication (w : Web) (r : Remote) :
    (r.startReplication w).outcome =
      (Endpoint.request w .post (r.endpoint.controlUrl "replicate")).outcome >>=
        Endpoint.verdict r.endpoint.base := by
  unfold startReplication
  rw [Trail.outcome_bind, Endpoint.outcome_call, bind_assoc]
  refine bind_congr fun answer => ?_
  unfold Endpoint.verdict
  refine bind_congr fun reply => ?_
  split <;> rfl

/-- **An order is given once, or it cannot be given.** -/
theorem order_of_direct (direct : w.Direct) (hat : r.endpoint.IsAt url) :
    ((r.startReplication w).Only (Looks url) ∧
      ∃ d, (r.startReplication w).outcome = .error (.http d)) ∨
    ∃ u, Url.parse (r.endpoint.controlUrl "replicate").toList = .ok u ∧
      (r.startReplication w).asked = [.request .post (Client.sentUrl u)] ∧
      (w.answer .post (Client.sentUrl u)).Settles r.endpoint.base (r.startReplication w).outcome := by
  unfold Trail.Only
  rw [asked_startReplication, outcome_startReplication]
  rcases Endpoint.exchange_of_request direct .post (r.endpoint.controlUrl "replicate") with
    ⟨d, hd⟩ | ⟨u, t, hu, ht, hrequest⟩
  · rw [hd]
    exact Or.inl ⟨Trail.only_of _, d, rfl⟩
  · rw [hrequest]
    cases ht with
    | unsent d => exact Or.inl ⟨Trail.only_of _, d, rfl⟩
    | shut d name https =>
      refine Or.inl ⟨fun s hs => ?_, d, rfl⟩
      cases List.mem_singleton.1 hs
      rw [Endpoint.controlUrl_eq] at hu
      exact hat.looks_connect hu https
    | lost d hlost =>
      -- An order that was sent and never answered has been given all the same.
      refine Or.inr ⟨u, hu, rfl, .failed d fun hcounts => ?_⟩
      have hbreakage : (w.answer .post (Client.sentUrl u)).breakage = some .connection := hlost
      rw [hcounts.1] at hbreakage
      cases hbreakage
    | answered v hanswer =>
      exact Or.inr ⟨u, hu, rfl, Endpoint.settles_verdict hanswer r.endpoint.base v⟩

end Remote

end Stratum
