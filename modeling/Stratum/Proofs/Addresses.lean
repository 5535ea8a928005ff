import Stratum.Proofs.RemoteOpening
import Stratum.Proofs.Requests
import Stratum.Proofs.Written

/-!
# Addresses below a URL

The artifacts of a repository stand below its URL. Their URLs are made by writing the URL of the
repository, dropping slashes at its end and adding a slash and the name; then the whole is read
again. What is added becomes part of whatever the URL ends with (`Url.below`): of its path, if that
is the last thing in it, but otherwise of its query, or of its fragment, which is not even sent.

> `IsWritten.parse_below`: the text is read as a URL whose last part is longer, and else is the
> same.
> `addressed_iff`: the path is that of the repository with the name behind it exactly if the URL
> has no query and no fragment; and the requests for different artifacts differ exactly if it has no
> fragment.
-/

namespace Stratum

open Text

namespace Url

variable {u : Url} {a : Authority}

/-! ## One more name -/

/-- The URL whose last part is continued: slashes at its end are dropped, and a slash and a name are
added. -/
def below (u : Url) (name : List Char) : Url :=
  match u.fragment, u.query with
  | some f, _ => { u with fragment := some (Endpoint.trimEnd f ++ '/' :: name) }
  | none, some q => { u with query := some (Endpoint.trimEnd q ++ '/' :: name) }
  | none, none => { u with path := Endpoint.trimEnd u.path ++ '/' :: name }

theorem trimEnd_append_cons {c : Char} (hc : c ≠ '/') (s t : List Char) :
    Endpoint.trimEnd (s ++ c :: t) = s ++ c :: Endpoint.trimEnd t :=
  dropEndWhile_append_cons (p := Endpoint.isSlash) (beq_false_of_ne hc) s t

/-- No slash is dropped from what stands before the path. -/
theorem IsWritten.trimEnd_front (h : u.IsWritten a) (t : List Char) :
    Endpoint.trimEnd (front u.scheme a ++ t) = front u.scheme a ++ Endpoint.trimEnd t := by
  rcases List.eq_nil_or_concat (hostText a) with hnil | ⟨body, c, hhost⟩
  · exact absurd hnil h.authority.hostText_ne_nil
  · rw [List.concat_eq_append] at hhost
    have hc := h.authority.plain_hostText c (hhost ▸ List.mem_concat_self)
    have hslash : c ≠ '/' := by
      rintro rfl
      exact absurd hc.2.1 (by decide)
    have hsplit (t : List Char) : front u.scheme a ++ t =
        (u.scheme ++ ':' :: '/' :: '/' :: (userText a ++ body)) ++ c :: t := by
      unfold front
      rw [hhost]
      simp
    rw [hsplit, hsplit, trimEnd_append_cons hslash]

/-- The URL without slashes at its end. -/
def trimmed (u : Url) : Url :=
  match u.fragment, u.query with
  | some f, _ => { u with fragment := some (Endpoint.trimEnd f) }
  | none, some q => { u with query := some (Endpoint.trimEnd q) }
  | none, none => { u with path := Endpoint.trimEnd u.path }

/-- It is written like that. -/
theorem IsWritten.text_trimmed (h : u.IsWritten a) : u.trimmed.text = Endpoint.trimEnd u.text := by
  unfold trimmed
  split
  next f hf =>
    have htext : u.text = (u.stem ++ part '?' u.query) ++ '#' :: f := by rw [text, hf, part]
    rw [htext, trimEnd_append_cons (by decide)]
    simp [text, stem, authorityText, part]
  next q hf hq =>
    have htext : u.text = u.stem ++ '?' :: q := by
      rw [text, hf, hq, part, part, List.append_nil]
    rw [htext, trimEnd_append_cons (by decide)]
    simp [text, stem, authorityText, part, hf]
  next hf hq =>
    have htext : u.text = front u.scheme a ++ u.path := by
      simp [h.text_eq, hf, hq, part]
    rw [htext, h.trimEnd_front]
    simp [text, stem, authorityText, front, part, hf, hq, h.authority_eq]

/-- **So is the URL that is continued**: the URL is written, cut at its end and continued. -/
theorem IsWritten.text_below (h : u.IsWritten a) (name : List Char) :
    (u.below name).text = Endpoint.trimEnd u.text ++ '/' :: name := by
  rw [← h.text_trimmed]
  unfold below trimmed
  split
  next f hf => simp [text, stem, authorityText, part]
  next q hf hq => simp [text, stem, authorityText, part, hf]
  next hf hq => simp [text, stem, authorityText, part, hf, hq]

/-- A name that stands for itself, and for no directory. -/
structure IsPlainName (name : List Char) : Prop where
  unreserved : ∀ c ∈ name, Percent.isUnreserved c = true
  ne_dot : name ≠ ['.']
  ne_dotDot : name ≠ ['.', '.']

namespace IsPlainName

variable {name : List Char} (h : IsPlainName name)

theorem of_toLower_unreserved {c : Char} (h : Percent.isUnreserved c = true) :
    (c.toLower = '.' → c = '.') ∧ c.toLower ≠ '%' :=
  forall_ascii (P := fun c => Percent.isUnreserved c = true →
      (c.toLower = '.' → c = '.') ∧ c.toLower ≠ '%')
    (by decide +kernel) (Percent.lt_of_isUnreserved h) h

include h

theorem inert (c : Char) (hc : c ∈ name) : Percent.IsInert c :=
  Percent.isInert_of_isUnreserved (h.unreserved c hc)

/-- In small letters it has no percent sign either, and dots only where it has dots. -/
theorem map_toLower_ne {dots : List Char}
    (hdots : '%' ∈ dots ∨ (dots.all (· == '.') = true ∧ name ≠ dots)) :
    name.map Char.toLower ≠ dots := by
  rintro rfl
  rcases hdots with hpercent | ⟨hdots, hne⟩
  · obtain ⟨c, hc, hpercent⟩ := List.mem_map.1 hpercent
    exact (of_toLower_unreserved (h.unreserved c hc)).2 hpercent
  · have hself : name.map Char.toLower = name.map id := by
      refine List.map_congr_left fun c hc => ?_
      have hlower : c.toLower = '.' :=
        beq_iff_eq.1 (List.all_eq_true.1 hdots _ (List.mem_map_of_mem hc))
      rw [hlower]
      exact ((of_toLower_unreserved (h.unreserved c hc)).1 hlower).symm
    rw [hself, List.map_id] at hne
    exact hne rfl

theorem isName : UrlPath.IsName name := by
  have hne (dots : String)
      (hdots : '%' ∈ dots.toList ∨ (dots.toList.all (· == '.') = true ∧ name ≠ dots.toList)) :
      String.ofList (name.map Char.toLower) ≠ dots := by
    rintro rfl
    rw [String.toList_ofList] at hdots
    exact h.map_toLower_ne hdots rfl
  refine ⟨?_, ?_⟩
  · have hdot := hne "." (Or.inr ⟨by decide, h.ne_dot⟩)
    have hpercent := hne "%2e" (Or.inl (by decide))
    unfold UrlPath.isDot
    simp [hdot, hpercent]
  · have hdotDot := hne ".." (Or.inr ⟨by decide, h.ne_dotDot⟩)
    have hfirst := hne ".%2e" (Or.inl (by decide))
    have hsecond := hne "%2e." (Or.inl (by decide))
    have hboth := hne "%2e%2e" (Or.inl (by decide))
    unfold UrlPath.isDotDot
    simp [hdotDot, hfirst, hsecond, hboth]

/-- Behind a path it is a name of its own. -/
theorem isWritten_append {path : List Char} (hpath : UrlPath.IsWritten path) :
    UrlPath.IsWritten (Endpoint.trimEnd path ++ '/' :: name) := by
  refine hpath.append h.isName fun c hc => ?_
  have hinert := h.inert c hc
  exact ⟨hinert.path, hinert.ne_back, hinert.ne_slash⟩

end IsPlainName

theorem mem_of_mem_trimEnd {s : List Char} {c : Char} (h : c ∈ Endpoint.trimEnd s) : c ∈ s := by
  obtain ⟨slashes, hs, -⟩ := UrlPath.trimEnd_eq s
  rw [hs]
  exact List.mem_append_left slashes h

/-- **A URL with a name behind it is read as it is written.** -/
theorem IsWritten.below (h : u.IsWritten a) {name : List Char}
    (hname : IsPlainName name) : (u.below name).IsWritten a := by
  have hplain {set : Percent.EncodeSet} {s : List Char} (hs : ∀ c ∈ s, set c = false)
      (hslash : set '/' = false) (hset : ∀ c ∈ name, set c = false) :
      ∀ c ∈ Endpoint.trimEnd s ++ '/' :: name, set c = false := by
    intro c hc
    rcases List.mem_append.1 hc with hc | hc
    · exact hs c (mem_of_mem_trimEnd hc)
    · rcases List.mem_cons.1 hc with rfl | hc
      · exact hslash
      · exact hset c hc
  unfold Url.below
  split
  next f hf =>
    have hfragment := hplain (h.fragment f hf) (by decide) fun c hc =>
      (hname.inert c hc).fragment
    exact { h with fragment := fun g hg => Option.some.inj hg ▸ hfragment }
  next q hf hq =>
    have hquery := hplain (h.query q hq) (by decide) fun c hc =>
      (hname.inert c hc).specialQuery
    exact { h with query := fun g hg => Option.some.inj hg ▸ hquery }
  next =>
    exact { h with path := hname.isWritten_append h.path }

/-- Without a query and a fragment, anything can be added to the path, and is resolved there. -/
theorem IsWritten.parse_continued (h : u.IsWritten a)
    (hq : u.query = none) (hf : u.fragment = none) {more : List Char}
    (hmore : ∀ c ∈ more, Percent.path c = false) :
    parse (Endpoint.trimEnd u.text ++ '/' :: more) =
      (Host.ofSpecial a.host.text).map fun host =>
        { u.withHost host with
          path := hierarchyPath true (Endpoint.trimEnd u.path ++ '/' :: more) } := by
  have htext : u.text = front u.scheme a ++ u.path := by
    simp [h.text_eq, hf, hq, part]
  obtain ⟨r, hr⟩ := h.path.front_append more
  have hplain : ∀ c ∈ Endpoint.trimEnd u.path ++ '/' :: more,
      0x20 < c.toNat ∧ endsPath c = false := by
    intro c hc
    rcases List.mem_append.1 hc with hc | hc
    · exact Percent.of_not_path (h.path.plain c (mem_of_mem_trimEnd hc)).1
    · rcases List.mem_cons.1 hc with rfl | hc
      · decide
      · exact Percent.of_not_path (hmore c hc)
  have hrest (b : Authority) : ofRest u.scheme b (Endpoint.trimEnd u.path ++ '/' :: more) =
      { u with
        authority := some b
        path := hierarchyPath true (Endpoint.trimEnd u.path ++ '/' :: more) } := by
    have hall : ∀ c ∈ Endpoint.trimEnd u.path ++ '/' :: more, (!endsPath c) = true := fun c hc => by
      rw [(hplain c hc).2]
      rfl
    unfold ofRest
    dsimp only
    rw [List.takeWhile_eq_self_iff.2 hall, List.drop_length, hq, hf]
    rfl
  have hfollows : FollowsAuthority (Endpoint.trimEnd u.path ++ '/' :: more) := by
    rw [hr]
    exact followsAuthority_slash r
  rw [htext, h.trimEnd_front, List.append_assoc,
    h.parse_front hfollows fun c hc => (hplain c hc).1]
  cases Host.ofSpecial a.host.text with
  | error e => rfl
  | ok host =>
    refine congrArg Except.ok ((hrest _).trans ?_)
    unfold withHost
    rw [h.authority_eq]
    rfl

/-- **What is added to the text of a URL is added to its last part.** -/
theorem IsWritten.parse_below (h : u.IsWritten a) {name : List Char}
    (hname : IsPlainName name) :
    parse (Endpoint.trimEnd u.text ++ '/' :: name) =
      (Host.ofSpecial a.host.text).map (u.below name).withHost := by
  rw [← h.text_below, (h.below hname).parse_text]

/-- Only at the end of the whole URL its path is continued. -/
theorem path_below (u : Url) (name : List Char) :
    (u.query = none ∧ u.fragment = none ∧
      (u.below name).path = Endpoint.trimEnd u.path ++ '/' :: name) ∨
    ((u.query ≠ none ∨ u.fragment ≠ none) ∧ (u.below name).path = u.path) := by
  unfold below
  split
  next f hf => exact Or.inr ⟨Or.inr (hf ▸ Option.some_ne_none f), rfl⟩
  next q hf hq => exact Or.inr ⟨Or.inl (hq ▸ Option.some_ne_none q), rfl⟩
  next hf hq => exact Or.inl ⟨hq, hf, rfl⟩

/-- A path that is not continued does not end with the name. -/
theorem ne_append_of_isPlainName {name : List Char} (h : IsPlainName name) (hne : name ≠ [])
    (path : List Char) : path ≠ Endpoint.trimEnd path ++ '/' :: name := by
  intro hpath
  obtain ⟨slashes, hslashes, hall⟩ := UrlPath.trimEnd_eq path
  have hname : slashes = '/' :: name := List.append_cancel_left (hslashes.symm.trans hpath)
  obtain ⟨c, rest, rfl⟩ := List.exists_cons_of_ne_nil hne
  have hslash : c = '/' := hall c (by rw [hname]; simp)
  exact (h.inert c List.mem_cons_self).ne_slash hslash

/-! ## What is sent of it -/

/-- Without a fragment, what is added stands at the end of what is sent. -/
theorem sentUrl_below_of_no_fragment (h : u.fragment = none) (host : Host) :
    ∃ front, ∀ name, Client.sentUrl ((u.below name).withHost host) =
      String.ofList (front ++ name) := by
  cases hq : u.query with
  | some q =>
    refine ⟨(u.withHost host).withoutUser.stem ++ '?' :: (Endpoint.trimEnd q ++ ['/']), ?_⟩
    intro name
    have hbelow : u.below name = { u with query := some (Endpoint.trimEnd q ++ '/' :: name) } := by
      unfold Url.below
      rw [h, hq]
    rw [hbelow]
    refine congrArg String.ofList ?_
    simp [text, stem, authorityText, part, withoutUser, withoutFragment, withHost]
  | none =>
    refine ⟨u.scheme ++ ':' :: (u.withHost host).withoutUser.authorityText ++
      (Endpoint.trimEnd u.path ++ ['/']), ?_⟩
    intro name
    have hbelow : u.below name = { u with path := Endpoint.trimEnd u.path ++ '/' :: name } := by
      unfold Url.below
      rw [h, hq]
    rw [hbelow]
    refine congrArg String.ofList ?_
    simp [text, stem, authorityText, part, withoutUser, withoutFragment, withHost, hq]

/-- With one, it is not sent at all. -/
theorem sentUrl_below_of_fragment {f : List Char} (h : u.fragment = some f) (host : Host)
    (name : List Char) :
    Client.sentUrl ((u.below name).withHost host) = Client.sentUrl (u.withHost host) := by
  have hbelow : u.below name = { u with fragment := some (Endpoint.trimEnd f ++ '/' :: name) } := by
    unfold Url.below
    rw [h]
  rw [hbelow]
  rfl

end Url

namespace Client

variable {w : Web} {m : Method} {u : Url}

/-- The first thing that is sent for a URL is the request itself, unless it needs a secured
connection. -/
theorem head?_asked_send (unsecured : u.scheme ≠ "https".toList) {s : Sent}
    (h : (send w m u).asked.head? = some s) : s = .request m (sentUrl u) := by
  have hfollow {s : Sent} (h : (follow w redirectLimit m (hideUser u)).asked.head? = some s) :
      s = .request m (sentUrl u) := by
    rw [follow_eq] at h
    have hcase := transmission w m (hideUser u)
    generalize transmit w m (hideUser u) = t at hcase h
    cases hcase with
    | down d _ => cases h
    | shut d https _ => exact absurd (scheme_hideUser u ▸ https) unsecured
    | lost d _ =>
      rw [sentUrl_hideUser] at h
      exact (Option.some.inj h).symm
    | answered _ =>
      rw [sentUrl_hideUser] at h
      exact (Option.some.inj h).symm
  unfold send at h
  split at h
  · cases h
  · dsimp only at h
    split at h
    · exact hfollow h
    · cases h

end Client

namespace Endpoint

variable {w : Web} {e : Endpoint} {url : String} {u : Url}

theorem toList_artifactUrl (hat : e.IsAt url) (hu : Url.parse url.toList = .ok u) (name : String) :
    (e.artifactUrl name).toList = trimEnd u.text ++ '/' :: name.toList := by
  obtain ⟨u', hu', hbase⟩ := hat
  obtain rfl : u = u' := Except.ok.inj (hu.symm.trans hu')
  have hslash : "/".toList = ['/'] := by decide
  unfold artifactUrl
  rw [String.toList_append, String.toList_append, hbase, String.toList_ofList, hslash,
    List.append_assoc]
  rfl

/-- The request for an artifact is for the URL of the repository with the name behind it. -/
theorem head?_asked_fetch (hat : e.IsAt url) (hu : Url.parse url.toList = .ok u)
    (http : u.scheme = "http".toList) {a : Authority} (ha : u.IsWritten a) {name : String}
    (hname : Url.IsPlainName name.toList) {s : Sent}
    (hs : (e.fetch w name).asked.head? = some s) :
    ∃ host, Host.ofSpecial a.host.text = .ok host ∧
      Url.parse (e.artifactUrl name).toList = .ok ((u.below name.toList).withHost host) ∧
      s = .request .get (Client.sentUrl ((u.below name.toList).withHost host)) := by
  have hparse : Url.parse (e.artifactUrl name).toList =
      (Host.ofSpecial a.host.text).map (u.below name.toList).withHost := by
    rw [toList_artifactUrl hat hu, ha.parse_below hname]
  rw [asked_fetch] at hs
  unfold request at hs
  rw [hparse] at hs ⊢
  cases hhost : Host.ofSpecial a.host.text with
  | error d =>
    rw [hhost] at hs
    cases hs
  | ok host =>
    rw [hhost] at hs
    refine ⟨host, rfl, rfl, Client.head?_asked_send ?_ hs⟩
    have hscheme : ((u.below name.toList).withHost host).scheme = u.scheme := by
      unfold Url.below
      split <;> rfl
    rw [hscheme, http]
    decide

/-- **Artifacts are below the repository if its URL ends with its path.** The path that a request
for an artifact goes to is that of the repository, without slashes at its end, and behind it a slash
and the name, exactly if the URL of the repository has neither a query nor a fragment. The requests
for two artifacts differ exactly if it has no fragment. -/
theorem addressed_iff (hat : e.IsAt url) (hu : Url.parse url.toList = .ok u)
    (http : u.scheme = "http".toList) {name : String} (hname : Url.IsPlainName name.toList)
    {s : Sent} (hs : (e.fetch w name).asked.head? = some s) :
    (∃ v, Url.parse (e.artifactUrl name).toList = .ok v ∧ s = .request .get (Client.sentUrl v) ∧
      (u.query = none ∧ u.fragment = none → v.path = trimEnd u.path ++ '/' :: name.toList) ∧
      (name ≠ "" → v.path = trimEnd u.path ++ '/' :: name.toList →
        u.query = none ∧ u.fragment = none)) ∧
    ∀ w' name' s', Url.IsPlainName name'.toList → (e.fetch w' name').asked.head? = some s' →
      name ≠ name' → (s ≠ s' ↔ u.fragment = none) := by
  obtain ⟨a, ha⟩ := Url.isWritten_of_http hu http
  obtain ⟨host, hhost, hparse, rfl⟩ := head?_asked_fetch hat hu http ha hname hs
  refine ⟨⟨_, hparse, rfl, ?_⟩, ?_⟩
  · show _ ∧ (name ≠ "" → (u.below name.toList).path = _ → _)
    rcases Url.path_below u name.toList with ⟨hq, hf, hpath⟩ | ⟨hmore, hpath⟩
    · exact ⟨fun _ => hpath, fun _ _ => ⟨hq, hf⟩⟩
    · refine ⟨fun hnone => ?_, fun hne hends => ?_⟩
      · rcases hmore with hmore | hmore
        · exact absurd hnone.1 hmore
        · exact absurd hnone.2 hmore
      · have hnil : name.toList ≠ [] := fun h => hne (String.toList_eq_nil_iff.1 h)
        exact absurd (hpath.symm.trans hends) (Url.ne_append_of_isPlainName hname hnil u.path)
  · intro w' name' s' hname' hs' hne
    obtain ⟨host', hhost', -, rfl⟩ := head?_asked_fetch hat hu http ha hname' hs'
    -- Both hosts come from the same text.
    obtain rfl : host = host' := Except.ok.inj (hhost.symm.trans hhost')
    cases hf : u.fragment with
    | none =>
      obtain ⟨front, hfront⟩ := Url.sentUrl_below_of_no_fragment hf host
      refine iff_of_true (fun h => hne ?_) rfl
      rw [hfront, hfront] at h
      have hnames := List.append_cancel_left (String.ofList_injective (Sent.request.inj h).2)
      exact String.toList_inj.1 hnames
    | some f =>
      refine iff_of_false (fun h => h ?_) (Option.some_ne_none f)
      rw [Url.sentUrl_below_of_fragment hf, Url.sentUrl_below_of_fragment hf]

/-- An address with user, TCP port and slashes at its end. -/
theorem addressed_iff_portal :
    ∃ v, Url.parse "http://U:p@h:81/a/.cvmfspublished".toList = .ok v ∧
      v.path = "/a/.cvmfspublished".toList ∧
      Client.sentUrl v = "http://h:81/a/.cvmfspublished" := by
  have hurl : ofUrl "HTTP://U:p@H:81/a//" {} = .ok ⟨"http://U:p@h:81/a", "control", none⟩ := by
    decide +kernel
  have hu : Url.parse "HTTP://U:p@H:81/a//".toList = .ok ⟨"http".toList,
      some ⟨['U'], ['p'], .domain ['h'], some 81⟩, "/a//".toList, none, none⟩ := by
    decide +kernel
  have hname : Url.IsPlainName ".cvmfspublished".toList :=
    ⟨List.all_eq_true.1 (by decide +kernel), by decide, by decide⟩
  have hs : (fetch {} ⟨"http://U:p@h:81/a", "control", none⟩ ".cvmfspublished").asked.head? =
      some (.request .get "http://h:81/a/.cvmfspublished") := by
    decide +kernel
  obtain ⟨⟨v, hv, hsent, hpath, -⟩, -⟩ := addressed_iff (isAt_of_ofUrl hurl) hu rfl hname hs
  have hpath := hpath ⟨rfl, rfl⟩
  refine ⟨v, hv, hpath.trans (by decide +kernel), ?_⟩
  exact ((Sent.request.inj hsent).2).symm

/-- A server with one page, whatever it is asked for. -/
def onePage : Web where
  routes :=
    [⟨.head, .exactly "http://h/a.org", { status := 404 }⟩,
      ⟨.get, .exactly "http://h/a.org", { body := "2024-01-01T00:00:00Z\nNa.org\n".utf8 }⟩]

/-- **A repository can be opened whose artifacts all have one address**, which is not below it: its
URL has a fragment. -/
theorem asked_onePage :
    (Remote.connect onePage {} "http://h/a.org#f").outcome.isOk = true ∧
    (ofUrl "http://h/a.org#f" {}).map (fun e =>
        [".cvmfspublished", ".cvmfs_last_snapshot"].map fun name => (e.fetch onePage name).asked) =
      .ok [[.request .get "http://h/a.org"], [.request .get "http://h/a.org"]] ∧
    (Url.parse "http://h/a.org".toList).map (fun v => v.path) = .ok "/a.org".toList := by
  refine ⟨?_, ?_, ?_⟩ <;> decide +kernel

end Endpoint

end Stratum
