import Stratum.Proofs.Outcome
import Stratum.Proofs.Trails
import Stratum.Web.Client

/-!
# What a client sends, and what becomes of it

A client sends one request after another until one is answered without a redirect. All that can
become of a single one is listed in `Transmission`, and everything said here of whole exchanges is
taken from that list, by induction on the redirects that may be followed.

> `heeds_send`: a request is repeated with its own method, but for a POST that becomes a GET;
> nothing that was lost on the way is taken for an answer; and what comes of a GET that was cut
> short is an answer that says so.
> `exchange_of_direct`: where no answer leads elsewhere, one request is all that is sent.
-/

namespace Stratum

namespace Web

variable {w : Web}

/-- No answer came to what was sent: the server hung up, or the connection would have had to be
secured and was not. -/
def Loses (w : Web) : Sent → Prop
  | .request m url => (w.answer m url).breakage = some .connection
  | .connect _ => True

/-- What was sent is a GET that was answered with success and with a part of the body only. Such
an answer is no redirect, so it is the last one. -/
def Curtails (w : Web) : Sent → Prop
  | .request .get url =>
    200 ≤ (w.answer .get url).status ∧ (w.answer .get url).status < 300 ∧
      (w.answer .get url).breakage = some .body
  | _ => False

/-- No answer leads elsewhere. -/
def Direct (w : Web) : Prop := ∀ r ∈ w.routes, r.answer.location = none

/-- The answer of a route leads nowhere else in such a web. -/
theorem location_of_answer? (h : w.Direct) {m : Method} {url : String} {a : Answer}
    (ha : w.answer? m url = some a) : a.location = none := by
  obtain ⟨r, hr, rfl⟩ := Option.map_eq_some_iff.1 ha
  exact h r (List.mem_of_find?_eq_some hr)

/-- Neither does any other answer. -/
theorem location_answer (h : w.Direct) (m : Method) (url : String) :
    (w.answer m url).location = none := by
  have hroute (m : Method) : ((w.answer? m url).getD noRoute).location = none := by
    cases ha : w.answer? m url with
    | none => rfl
    | some a => exact location_of_answer? h ha
  cases m with
  | get => exact hroute .get
  | post => exact hroute .post
  | head =>
    unfold answer
    cases ha : w.answer? .head url with
    | none => exact hroute .get
    | some a => exact location_of_answer? h ha

end Web

namespace Client

variable {w : Web} {m : Method} {u : Url}

/-! ## One request -/

/-- All that can become of one request for a URL. -/
inductive Transmission (w : Web) (m : Method) (u : Url) : Trail Sent HttpError Answer → Prop
  | down (d : HttpError) (h : w.up = false) : Transmission w m u (Trail.of (.error d))
  | shut (d : HttpError) (https : u.scheme = "https".toList) (h : w.secures = false) :
    Transmission w m u (Trail.ask (.connect (server u)) (.error d))
  | lost (d : HttpError) (h : w.Loses (.request m (sentUrl u))) :
    Transmission w m u (Trail.ask (.request m (sentUrl u)) (.error d))
  | answered (h : ¬w.Loses (.request m (sentUrl u))) :
    Transmission w m u (Trail.ask (.request m (sentUrl u)) (.ok (w.answer m (sentUrl u))))

/-- Nothing else becomes of it. -/
theorem transmission (w : Web) (m : Method) (u : Url) : Transmission w m u (transmit w m u) := by
  unfold transmit
  cases hup : w.up with
  | false => exact .down _ hup
  | true =>
    cases hshut : isShut w u with
    | true =>
      unfold isShut at hshut
      rw [Bool.and_eq_true, beq_iff_eq, Bool.not_eq_true'] at hshut
      exact .shut _ hshut.1 hshut.2
    | false =>
      simp only [Bool.not_true, Bool.false_eq_true, if_false]
      by_cases hlost : (w.answer m (sentUrl u)).breakage = some .connection
      · rw [if_pos hlost]
        exact .lost _ hlost
      · rw [if_neg hlost]
        exact .answered hlost

/-- An answer of success redirects nowhere. -/
theorem redirect?_of_success {a : Answer} (h : a.status < 300) : redirect? u a = none := by
  unfold redirect?
  rw [if_neg]
  simp only [List.contains_iff_mem, List.mem_cons, List.not_mem_nil, or_false]
  omega

/-- A web where no answer leads elsewhere redirects nowhere. -/
theorem redirect?_of_direct (h : w.Direct) (m : Method) (url : String) (u : Url) :
    redirect? u (w.answer m url) = none := by
  unfold redirect?
  rw [Web.location_answer h]
  split <;> rfl

/-! ## Requests with all their redirects -/

/-- How the outcome of an exchange that starts with the method `m` bears on one thing that was
sent in it. -/
structure Accounts {ε : Type} (w : Web) (m : Method) (s : Sent) (o : Except ε Response) :
    Prop where
  /-- Every request has the method of the first one, but for a POST that has become a GET. -/
  method : ∀ m' url, s = .request m' url → m' = m ∨ (m = .post ∧ m' = .get)
  /-- What was lost makes the whole fail. -/
  loses : w.Loses s → ∃ d, o = .error d
  /-- What was cut short is the answer, or there is none. -/
  curtails : w.Curtails s → ∀ r, o = .ok r → r.isSuccess = true ∧ r.cut = true

/-- What follows a redirect accounts for the request that was redirected. -/
theorem Accounts.of_nextMethod {ε : Type} {status : Nat} {s : Sent} {o : Except ε Response}
    (h : Accounts w (nextMethod m status) s o) : Accounts w m s o where
  method m' url hs := by
    have hnext : nextMethod m status = m ∨ (m = .post ∧ nextMethod m status = .get) := by
      unfold nextMethod
      split
      next h =>
        rw [Bool.and_eq_true, decide_eq_true_eq] at h
        exact Or.inr ⟨h.1, rfl⟩
      next => exact Or.inl rfl
    rcases h.method m' url hs with h | ⟨h, hget⟩ <;> rcases hnext with hnext | ⟨hpost, hnext⟩
    · exact Or.inl (h.trans hnext)
    · exact Or.inr ⟨hpost, h.trans hnext⟩
    · exact Or.inr ⟨hnext ▸ h, hget⟩
    · rw [h] at hnext
      cases hnext
  loses := h.loses
  curtails := h.curtails

/-- A failure accounts for every request with the method of the first one. -/
theorem Accounts.of_error {ε : Type} {s : Sent} {d : ε}
    (hs : ∀ m' url, s = .request m' url → m' = m) : Accounts w m s (.error d) where
  method m' url h := Or.inl (hs m' url h)
  loses _ := ⟨d, rfl⟩
  curtails _ r hr := by cases hr

/-- The answer to a request for a URL, if it is the last one. -/
def responseOf (u : Url) (a : Answer) : Response where
  url := u
  status := a.status
  body := a.body
  cut := a.breakage = some .body

/-- Changing the failure changes nothing about this. -/
theorem Accounts.mapError {ε δ : Type} {s : Sent} {o : Except ε Response} (h : Accounts w m s o)
    (g : ε → δ) : Accounts w m s (o.mapError g) where
  method := h.method
  loses hs := by
    obtain ⟨d, rfl⟩ := h.loses hs
    exact ⟨g d, rfl⟩
  curtails hs r hr := h.curtails hs r (Outcome.mapError_eq_ok_iff.1 hr)

/-- What a client does with an answer: it is the last one, or it is followed. -/
def proceed (w : Web) (n : Nat) (m : Method) (u : Url) (a : Answer) :
    Trail Sent HttpError Response :=
  match redirect? u a with
  | none => return responseOf u a
  | some v =>
    match n with
    | 0 => Trail.fail (.redirecting (String.ofList u.text))
    | n + 1 =>
      if isSpoken v then follow w n (nextMethod m a.status) v
      else Trail.fail (.building (String.ofList v.text))

/-- An exchange is one request, and then what is done with its answer. -/
theorem follow_eq (w : Web) (n : Nat) (m : Method) (u : Url) :
    follow w n m u = transmit w m u >>= proceed w n m u := by
  unfold follow
  refine bind_congr fun a => ?_
  unfold proceed
  cases redirect? u a with
  | none => rfl
  | some v => cases n <;> rfl

/-- An answer to a request that was not lost is accounted for by what is done with it. -/
theorem Accounts.of_proceed {n : Nat} {url : String} (hanswer : ¬w.Loses (.request m url)) :
    Accounts w m (.request m url) (proceed w n m u (w.answer m url)).outcome where
  method m' url' hs := by
    cases hs
    exact Or.inl rfl
  loses h := absurd h hanswer
  curtails h r hr := by
    cases m with
    | head => cases h
    | post => cases h
    | get =>
      obtain ⟨hlow, hhigh, hcut⟩ := h
      unfold proceed at hr
      rw [redirect?_of_success hhigh] at hr
      cases hr
      simp [responseOf, Response.isSuccess, hlow, hhigh, hcut]

/-- What is sent behind an answer is accounted for, if it is in the exchanges with fewer
redirects. -/
theorem heeds_proceed {n : Nat} {a : Answer}
    (ih : ∀ k < n, ∀ m u, (follow w k m u).Heeds (Accounts w m)) :
    (proceed w n m u a).Heeds (Accounts w m) := by
  unfold proceed
  split
  · exact Trail.heeds_of _
  · cases n with
    | zero => exact Trail.heeds_of _
    | succ n =>
      show (if _ then _ else _ : Trail Sent HttpError Response).Heeds _
      split
      · exact fun s hs => (ih n (Nat.lt_succ_self n) _ _ s hs).of_nextMethod
      · exact Trail.heeds_of _

/-- **Every exchange accounts for what was sent in it**, however often it is redirected. -/
theorem heeds_follow (w : Web) (n : Nat) (m : Method) (u : Url) :
    (follow w n m u).Heeds (Accounts w m) := by
  induction n using Nat.strongRecOn generalizing m u with
  | ind n ih =>
    rw [follow_eq]
    have hcase := transmission w m u
    generalize transmit w m u = t at hcase
    cases hcase with
    | down d _ => exact Trail.heeds_of _
    | shut d _ _ =>
      intro s hs
      cases List.mem_singleton.1 hs
      refine Accounts.of_error fun m' url h => ?_
      cases h
    | lost d _ =>
      intro s hs
      cases List.mem_singleton.1 hs
      refine Accounts.of_error fun m' url h => ?_
      cases h
      rfl
    | answered hanswer =>
      intro s hs
      rcases List.mem_cons.1 hs with rfl | hs
      · exact Accounts.of_proceed hanswer
      · exact heeds_proceed ih s hs

/-- **So does everything that a client sends.** -/
theorem heeds_send (w : Web) (m : Method) (u : Url) : (send w m u).Heeds (Accounts w m) := by
  unfold send
  split
  · exact Trail.heeds_of _
  · show (if _ then _ else _ : Trail Sent HttpError Response).Heeds _
    split
    · exact heeds_follow w redirectLimit m _
    · exact Trail.heeds_of _

/-- Where the link is down, everything that is sent fails. -/
theorem send_of_down (h : w.up = false) (m : Method) (u : Url) :
    ∃ d, (send w m u).outcome = .error d := by
  have hfollow (v : Url) : (follow w redirectLimit m v).outcome =
      .error (.sending (String.ofList v.text)) := by
    have htransmit : transmit w m v = Trail.of (.error (.sending (String.ofList v.text))) := by
      unfold transmit
      rw [h]
      rfl
    rw [follow_eq, htransmit]
    rfl
  unfold send
  split
  · exact ⟨_, rfl⟩
  · dsimp only
    split
    · exact ⟨_, hfollow _⟩
    · exact ⟨_, rfl⟩

/-! ## Webs where no answer leads elsewhere -/

/-- User names and passwords are not sent, whether they are hidden before or not. -/
theorem sentUrl_hideUser (u : Url) : sentUrl (hideUser u) = sentUrl u := by
  unfold hideUser
  split
  · split
    · unfold sentUrl Url.withoutUser
      rw [Option.map_map]
      rfl
    · rfl
  · rfl

/-- Hiding them leaves the scheme. -/
theorem scheme_hideUser (u : Url) : (hideUser u).scheme = u.scheme := by
  unfold hideUser
  split
  · split <;> rfl
  · rfl

/-- Only requests for URLs with one of two schemes are answered. -/
theorem scheme_of_send {w : Web} {m : Method} {u : Url} {r : Response}
    (h : (send w m u).outcome = .ok r) :
    u.scheme = "http".toList ∨ u.scheme = "https".toList := by
  unfold send at h
  split at h
  next => cases h
  next =>
    dsimp only at h
    split at h
    next hsent =>
      have hspoken := (Bool.and_eq_true _ _ ▸ hsent).1
      unfold isSpoken at hspoken
      rwa [scheme_hideUser, Bool.or_eq_true, beq_iff_eq, beq_iff_eq] at hspoken
    next => cases h

/-- All that can become of a request where no answer leads elsewhere: it is sent once, or a secured
connection is tried in vain, or nothing is sent at all. -/
inductive Exchange (w : Web) (m : Method) (u : Url) : Trail Sent HttpError Response → Prop
  | unsent (d : HttpError) : Exchange w m u (Trail.of (.error d))
  | shut (d : HttpError) (name : String) (https : u.scheme = "https".toList) :
    Exchange w m u (Trail.ask (.connect name) (.error d))
  | lost (d : HttpError) (h : w.Loses (.request m (sentUrl u))) :
    Exchange w m u (Trail.ask (.request m (sentUrl u)) (.error d))
  | answered (v : Url) (h : ¬w.Loses (.request m (sentUrl u))) :
    Exchange w m u
      (Trail.ask (.request m (sentUrl u)) (.ok (responseOf v (w.answer m (sentUrl u)))))

/-- **Where no answer leads elsewhere, one request is all that is sent.** -/
theorem exchange_of_direct (direct : w.Direct) (m : Method) (u : Url) :
    Exchange w m u (send w m u) := by
  unfold send
  split
  · exact .unsent _
  show Exchange w m u (if _ then _ else _)
  split
  · rw [follow_eq]
    have hcase := transmission w m (hideUser u)
    generalize transmit w m (hideUser u) = t at hcase
    cases hcase with
    | down d _ => exact .unsent d
    | shut d https _ => exact .shut d _ (scheme_hideUser u ▸ https)
    | lost d hlost =>
      rw [sentUrl_hideUser] at hlost ⊢
      exact .lost d hlost
    | answered hanswer =>
      rw [sentUrl_hideUser] at hanswer ⊢
      have hproceed : proceed w redirectLimit m (hideUser u) (w.answer m (sentUrl u)) =
          pure (responseOf (hideUser u) (w.answer m (sentUrl u))) := by
        unfold proceed
        rw [redirect?_of_direct direct]
      rw [Trail.bind_of_ok (Trail.outcome_ask _ _), hproceed]
      exact .answered (hideUser u) hanswer
  · exact .unsent _

end Client

end Stratum
