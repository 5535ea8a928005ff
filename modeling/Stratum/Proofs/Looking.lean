import Stratum.CommandLine.Run
import Stratum.Proofs.RemoteOpening
import Stratum.Proofs.Requests
import Stratum.Proofs.Schemes

/-!
# Looking at what there is on the web

To find out about a repository on the web a command only looks: it sends HEADs and GETs, and tries
to secure a connection if the URL of the repository is one of https. `Looks` is the sort of these.
It is told from the requests themselves where no answer leads elsewhere, since an answer could lead
to another scheme.

> `Remote.looks_connect`: to open a repository is to look at it.
> `looks_info`, `looks_checkReplica`: so are the commands that report on one.
> `unsent_list`, `unsent_info`: what is on this machine is not looked for on the web.
-/

namespace Stratum

open Text

variable {w : Web} {layout : Layout} {url : String}

/-- What is sent on behalf of the repository at a URL without changing anything there: HEADs and
GETs, and the attempt to secure a connection if the URL is one of https. -/
def Looks (url : String) : Sent → Prop
  | .request m _ => m = .head ∨ m = .get
  | .connect _ => ∃ u, Url.parse url.toList = .ok u ∧ u.scheme = "https".toList

/-- A POST is no look. -/
theorem not_looks_post (url x : String) : ¬Looks url (.request .post x) := by
  intro h
  rcases h with h | h <;> cases h

/-! ## What is sent while a repository is opened -/

namespace Endpoint

variable {e : Endpoint}

/-- A request cannot be made, or it is an exchange for a URL. -/
theorem exchange_of_request (direct : w.Direct) (m : Method) (target : String) :
    (∃ d, request w m target = Trail.of (.error (.http d))) ∨
      ∃ u t, Url.parse target.toList = .ok u ∧ Client.Exchange w m u t ∧
        request w m target = t.mapError .http := by
  unfold request
  split
  next => exact Or.inl ⟨_, rfl⟩
  next u hu => exact Or.inr ⟨u, _, hu, Client.exchange_of_direct direct m u, rfl⟩

/-- A connection is secured for the repository if it is for something below. -/
theorem IsAt.looks_connect {more name : String} {v : Url} (h : e.IsAt url)
    (hv : Url.parse (e.base ++ more).toList = .ok v) (https : v.scheme = "https".toList) :
    Looks url (.connect name) := by
  obtain ⟨u, hu, hscheme⟩ := h.scheme_below hv
  exact ⟨u, hu, hscheme ▸ https⟩

/-- HEADs and GETs below a repository are looks. -/
theorem looks_request (direct : w.Direct) (h : e.IsAt url) {m : Method}
    (hm : m = .head ∨ m = .get) (more : String) :
    (request w m (e.base ++ more)).Only (Looks url) := by
  rcases exchange_of_request direct m (e.base ++ more) with ⟨d, hd⟩ | ⟨u, t, hu, ht, hrequest⟩
  · rw [hd]
    exact Trail.only_of _
  · rw [hrequest]
    intro s hs
    cases ht with
    | unsent d => cases hs
    | shut d name https =>
      cases List.mem_singleton.1 hs
      exact h.looks_connect hu https
    | lost d _ =>
      cases List.mem_singleton.1 hs
      exact hm
    | answered v _ =>
      cases List.mem_singleton.1 hs
      exact hm

/-- The URL of a control request stands below the repository. -/
theorem controlUrl_eq (e : Endpoint) (name : String) :
    e.controlUrl name = e.base ++ ("/" ++ e.connector ++ "/" ++ name) := by
  simp [controlUrl, String.append_assoc]

/-- So does that of an artifact. -/
theorem artifactUrl_eq (e : Endpoint) (name : String) :
    e.artifactUrl name = e.base ++ ("/" ++ name) := String.append_assoc

/-- To fetch an artifact is to look. -/
theorem looks_fetch (direct : w.Direct) (h : e.IsAt url) (name : String) :
    (e.fetch w name).Only (Looks url) := by
  unfold Trail.Only
  rw [asked_fetch, artifactUrl_eq]
  exact looks_request direct h (Or.inr rfl) _

/-- To ask a server what it is is to look, and does not lead to another place. -/
theorem looks_probe (direct : w.Direct) (h : e.IsAt url) : (e.probe w).Only (Looks url) := by
  unfold probe
  split
  · exact Trail.only_of _
  · refine Trail.only_bind ?_ fun _ _ => Trail.only_of _
    rw [controlUrl_eq]
    exact looks_request direct h (Or.inl rfl) _

/-- The place stays the same. -/
theorem base_of_probe {told : Bool × Endpoint} (h : (e.probe w).outcome = .ok told) :
    told.2.base = e.base := by
  unfold probe at h
  split at h
  · cases h
    rfl
  · rw [Trail.outcome_bind] at h
    obtain ⟨r, -, h⟩ := Outcome.bind_eq_ok_iff.1 h
    cases h
    rfl

/-- So is everything that is asked of it when it is opened. -/
theorem looks_identify (direct : w.Direct) (h : e.IsAt url) :
    (e.identify w).Only (Looks url) := by
  -- The control interface is asked at the place that the probe gives back.
  refine Trail.only_bind (looks_probe direct h) fun told htold => ?_
  have hbase := base_of_probe htold
  obtain ⟨available, e'⟩ := told
  have h' : e'.IsAt url := h.of_base hbase
  show (if _ then _ else _ : Trail Sent Failure (Kind × String × Endpoint)).Only _
  split
  · refine Trail.only_bind ?_ fun _ _ => Trail.only_of _
    unfold Trail.Only
    rw [asked_call, controlUrl_eq]
    exact looks_request direct h' (Or.inr rfl) _
  · exact Trail.only_of _

end Endpoint

/-- **To open a repository is to look at it.** -/
theorem Remote.looks_connect (direct : w.Direct) (layout : Layout) (url : String) :
    (connect w layout url).Only (Looks url) := by
  refine Trail.only_bind (Trail.only_of _) fun e he => ?_
  have hat : e.IsAt url := Endpoint.isAt_of_ofUrl he
  refine Trail.only_bind (Endpoint.looks_identify direct hat) fun told htold => ?_
  obtain ⟨b, hb⟩ := Endpoint.endpoint_of_identify (probed_of_ofUrl he) htold
  obtain ⟨kind, version, e'⟩ := told
  have hat' : e'.IsAt url := by
    cases hb
    exact hat.of_base rfl
  refine Trail.only_bind (Trail.only_expand fun name _ => ?_) fun _ _ => Trail.only_of _
  exact Endpoint.looks_fetch direct hat' name

namespace CommandLine

variable {w : World}

/-! ## Runs that send one sort of things -/

section Sends

variable {α β : Type} {sort : Sent → Prop}

/-- Everything that is sent is of one sort. -/
def Sends (sort : Sent → Prop) (r : Run α) : Prop := r.Only fun e => ∀ s, e = .sent s → sort s

/-- Something is seen to be sent if it is. -/
theorem mem_sent_iff {es : List Event} {s : Sent} : s ∈ sent es ↔ .sent s ∈ es := by
  unfold sent
  rw [List.mem_filterMap]
  constructor
  · rintro ⟨e, he, hs⟩
    cases e with
    | printed text => cases hs
    | sent s' =>
      cases hs
      exact he
  · intro h
    exact ⟨_, h, rfl⟩

/-- So what is seen is of that sort, too. -/
theorem Sends.of_mem {r : Run α} (h : Sends sort r) {s : Sent} (hs : s ∈ sent r.asked) : sort s :=
  h _ (mem_sent_iff.1 hs) s rfl

/-- Nothing is sent if it would have to be of no sort. -/
theorem Sends.sent_eq_nil {r : Run α} (h : Sends (fun _ => False) r) : sent r.asked = [] :=
  List.eq_nil_iff_forall_not_mem.2 fun _ hs => h.of_mem hs

/-- Something local sends nothing. -/
theorem sends_of (x : Except Complaint α) : Sends sort (Trail.of x) := Trail.only_of x

/-- What is asked of the web is what is sent. -/
theorem sends_expand {t : Trail Sent Complaint α} (h : t.Only sort) :
    Sends sort (t.expand fun s => [.sent s]) := by
  refine Trail.only_expand fun s hs e he s' he' => ?_
  cases List.mem_singleton.1 he
  cases he'
  exact h s hs

/-- Something remote sends what it asks for. -/
theorem sends_ofRemote {t : Trail Sent Failure α} (h : t.Only sort) : Sends sort (ofRemote t) :=
  sends_expand h

/-- Printing sends nothing. -/
theorem sends_print (text : String) : Sends sort (print text) := by
  intro e he s hs
  cases List.mem_singleton.1 he
  cases hs

/-- A chain sends one sort of things if each of its steps does. -/
theorem sends_bind {r : Run α} {f : α → Run β} (hr : Sends sort r)
    (hf : ∀ a, r.outcome = .ok a → Sends sort (f a)) : Sends sort (r >>= f) :=
  Trail.only_bind hr hf

end Sends

/-! ## The commands that only look -/

/-- The mark between a scheme and a host is found exactly if it is there. -/
theorem hasHostMark_iff (s : List Char) : hasHostMark s = true ↔ "://".toList <:+: s := by
  fun_induction hasHostMark s with
  | case1 r => exact iff_of_true rfl ⟨[], r, rfl⟩
  | case2 c r hfront ih =>
    rw [ih, List.infix_cons_iff]
    refine (or_iff_right ?_).symm
    rintro ⟨t, ht⟩
    obtain ⟨rfl, rfl⟩ := List.cons.inj ht
    exact hfront t rfl rfl
  | case3 => exact iff_of_false Bool.false_ne_true (by decide)

/-- A repository is named by its URL exactly if the mark is in its name. -/
theorem isUrl_eq_false_iff {repo : String} :
    isUrl repo = false ↔ ¬"://".toList <:+: repo.toList := by
  rw [← hasHostMark_iff, Bool.not_eq_true]
  exact Iff.rfl

/-- To list the repositories of this machine nothing is sent. -/
theorem unsent_list (w : World) (layout : Layout) (stratum0 : Bool) :
    Sends (fun _ => False) (list w layout stratum0) :=
  sends_bind (sends_of _) fun _ _ => sends_print _

/-- Nor is anything sent to report on one of them. -/
theorem unsent_info {repo : String} (h : isUrl repo = false) (w : World) (layout : Layout) :
    Sends (fun _ => False) (info w layout repo) := by
  unfold info
  rw [h]
  refine sends_bind (sends_of _) fun r _ => ?_
  exact sends_bind (sends_print _) fun _ _ => sends_print _

/-- **To report on a repository on the web is to look at it.** Its last line asks for nothing
more, since what it says is known since the repository was opened. -/
theorem looks_info (direct : w.web.Direct) (layout : Layout) (repo : String) :
    Sends (Looks repo) (info w layout repo) := by
  cases hurl : isUrl repo with
  | false =>
    intro e he s hs
    exact (unsent_info hurl w layout e he s hs).elim
  | true =>
    unfold info
    rw [hurl]
    refine sends_bind (sends_ofRemote (Remote.looks_connect direct layout repo)) fun r hr => ?_
    have hconnect : (Remote.connect w.web layout repo).outcome = .ok r :=
      Outcome.mapError_eq_ok_iff.1 (Outcome.mapError_eq_ok_iff.1 hr)
    obtain ⟨control, hcontrol⟩ := Remote.probed_of_connect hconnect
    refine sends_bind (sends_print _) fun _ _ => ?_
    rw [Remote.hasControl_of_probed hcontrol]
    exact sends_bind (sends_ofRemote (Trail.only_of _)) fun _ _ => sends_print _

/-- **To check a replica is to look at it.** -/
theorem looks_checkReplica (direct : w.web.Direct) (layout : Layout) (url : String) :
    Sends (Looks url) (checkReplica w layout url) := by
  have hfind : Sends (Looks url) (findReplica w layout url) :=
    sends_expand (Remote.looks_connect direct layout url)
  refine sends_bind hfind fun r _ => ?_
  exact sends_bind (sends_of _) fun _ _ => sends_print _

end CommandLine

end Stratum
