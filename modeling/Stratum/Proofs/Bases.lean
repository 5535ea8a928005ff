import Mathlib.Data.List.DropRight
import Stratum.Proofs.Addresses
import Stratum.Proofs.Looking

/-!
# Bases of repositories

The base of a repository on the web is its URL as it is written, without slashes at its end. The cut
may go through the path, the query or the fragment; it takes the whole path if that is the root, and
then reading puts a slash back. In every case the base names the same place as the URL does, so what
is shown of a repository can be given instead of what was given.

> `IsWritten.parse_trimmed`: what is read from a URL without slashes at its end.
> `connect_display`: the URL that is shown opens the same repository.
-/

namespace Stratum

open Text

namespace Endpoint

/-- Slashes are dropped once and for all. -/
theorem trimEnd_trimEnd (s : List Char) : trimEnd (trimEnd s) = trimEnd s := by
  unfold trimEnd dropEndWhile
  rw [List.reverse_reverse, List.dropWhile_idempotent]

end Endpoint

namespace Url

variable {u : Url} {a : Authority}

/-- It is read as it is written, unless nothing is left of its path. -/
theorem IsWritten.trimmed (h : u.IsWritten a) (hne : u.trimmed.path ≠ []) :
    u.trimmed.IsWritten a := by
  unfold Url.trimmed at hne ⊢
  split at hne
  next f hf =>
    have hfragment : ∀ c ∈ Endpoint.trimEnd f, Percent.fragment c = false := fun c hc =>
      h.fragment f hf c (mem_of_mem_trimEnd hc)
    exact { h with fragment := fun g hg => Option.some.inj hg ▸ hfragment }
  next q hf hq =>
    have hquery : ∀ c ∈ Endpoint.trimEnd q, Percent.specialQuery c = false := fun c hc =>
      h.query q hq c (mem_of_mem_trimEnd hc)
    exact { h with query := fun g hg => Option.some.inj hg ▸ hquery }
  next =>
    exact { h with path := h.path.trimEnd hne }

/-- Nothing is left of a path only if the path is all that follows the authority. -/
theorem IsWritten.of_trimmed_path (h : u.IsWritten a) (hnil : u.trimmed.path = []) :
    u.query = none ∧ u.fragment = none ∧ Endpoint.trimEnd u.path = [] := by
  obtain ⟨r, hr⟩ := h.path.front
  have hne : u.path ≠ [] := by
    rw [hr]
    exact List.cons_ne_nil _ _
  unfold Url.trimmed at hnil
  split at hnil
  next => exact absurd hnil hne
  next => exact absurd hnil hne
  next hf hq => exact ⟨hq, hf, hnil⟩

/-- A URL is read back exactly if its host is. -/
theorem IsWritten.parse_text_iff (h : u.IsWritten a) :
    parse u.text = .ok u ↔ Host.ofSpecial a.host.text = .ok a.host := by
  rw [h.parse_text, Outcome.map_eq_ok_iff]
  constructor
  · intro hback
    obtain ⟨host, hhost, hu⟩ := hback
    have hauthority : (u.withHost host).authority = some a := by rw [hu, h.authority_eq]
    unfold withHost at hauthority
    rw [h.authority_eq] at hauthority
    have ha : { a with host } = a := Option.some.inj hauthority
    rw [hhost, ← congrArg Authority.host ha]
  · intro hhost
    refine ⟨a.host, hhost, ?_⟩
    unfold withHost
    rw [h.authority_eq]
    show { u with authority := some a } = u
    rw [← h.authority_eq]

/-- **Without slashes at its end a URL is read as one that is written with the same ones or with one
more.** Without them they are the same. -/
theorem IsWritten.parse_trimmed (h : u.IsWritten a)
    (hhost : Host.ofSpecial a.host.text = .ok a.host) :
    ∃ v, parse (Endpoint.trimEnd u.text) = .ok v ∧
      Endpoint.trimEnd v.text = Endpoint.trimEnd u.text := by
  by_cases hnil : u.trimmed.path = []
  · -- Nothing is left of the root, and reading puts it back.
    obtain ⟨hq, hf, hpath⟩ := h.of_trimmed_path hnil
    have hroot : UrlPath.IsWritten ['/'] := UrlPath.isWritten_ofText false []
    have hwritten : { u with path := ['/'] }.IsWritten a := { h with path := hroot }
    have hcut : Endpoint.trimEnd u.text = front u.scheme a ++ [] := by
      rw [h.text_eq, hq, hf, part, part, List.append_nil, List.append_nil, h.trimEnd_front, hpath]
    have hrest : ofRest u.scheme a [] = { u with path := ['/'] } := by
      show (⟨u.scheme, some a, ['/'], none, none⟩ : Url) =
        ⟨u.scheme, u.authority, ['/'], u.query, u.fragment⟩
      rw [h.authority_eq, hq, hf]
    refine ⟨{ u with path := ['/'] }, ?_, ?_⟩
    · rw [hcut, h.parse_front followsAuthority_nil (List.forall_mem_nil _), hhost]
      exact congrArg Except.ok hrest
    · rw [hwritten.text_eq, hwritten.trimEnd_front, hcut, hq, hf]
      rfl
  · have hwritten := h.trimmed hnil
    refine ⟨u.trimmed, ?_, ?_⟩
    · rw [← h.text_trimmed, hwritten.parse_text_iff]
      exact hhost
    · rw [h.text_trimmed, Endpoint.trimEnd_trimEnd]

/-- The mark between scheme and host is left. -/
theorem IsWritten.hostMark_infix (h : u.IsWritten a) :
    "://".toList <:+: Endpoint.trimEnd u.text := by
  have hfront (t : List Char) : "://".toList <:+: front u.scheme a ++ t :=
    ⟨u.scheme, userText a ++ hostText a ++ t, by simp [front]⟩
  rw [h.text_eq, h.trimEnd_front]
  exact hfront _

end Url

namespace Remote

/-- What is shown of an opened repository is the base that its URL has. -/
theorem display_of_connect {w : Web} {layout : Layout} {url : String} {r : Remote} {e : Endpoint}
    (h : (connect w layout url).outcome = .ok r) (he : Endpoint.ofUrl url layout = .ok e) :
    r.display = e.base := by
  obtain ⟨e', probe, he', -, hendpoint⟩ := endpoint_of_connect h
  obtain rfl : e = e' := Except.ok.inj (he.symm.trans he')
  unfold display
  rw [hendpoint]
  rfl

/-- **The URL that is shown opens the same repository.** The base of any URL of a server is the URL of
the same place, and its own base: to open it is to send the same requests, and to get the same
repository. It is what a repository shows itself as, and the commands take it for a URL. What is
relied on is that the URL is read back as it is, as it is written before it is cut. -/
theorem connect_display {url : String} {u : Url} (hu : Url.parse url.toList = .ok u)
    (web : u.scheme = "http".toList ∨ u.scheme = "https".toList)
    (hback : Url.parse u.text = .ok u) (layout : Layout) :
    ∃ e, Endpoint.ofUrl url layout = .ok e ∧ Endpoint.ofUrl e.base layout = .ok e ∧
      CommandLine.isUrl e.base = true ∧
      ∀ w, connect w layout e.base = connect w layout url ∧
        ∀ r, (connect w layout url).outcome = .ok r →
          r.display = e.base ∧ connect w layout r.display = connect w layout url := by
  obtain ⟨a, ha⟩ := Url.isWritten_of_web hu web
  obtain ⟨v, hv, hbase⟩ := ha.parse_trimmed (ha.parse_text_iff.1 hback)
  let e : Endpoint := {
    base := String.ofList (Endpoint.trimEnd u.text)
    connector := String.ofList
      (Endpoint.trimEnd (layout.connector.toList.dropWhile Endpoint.isSlash)) }
  have he : Endpoint.ofUrl url layout = .ok e := by
    unfold Endpoint.ofUrl
    rw [hu]
  have htext : e.base.toList = Endpoint.trimEnd u.text := String.toList_ofList
  have hsame : Endpoint.ofUrl e.base layout = .ok e := by
    unfold Endpoint.ofUrl
    rw [htext, hv]
    dsimp only
    rw [hbase]
  have hconnect : ∀ w, connect w layout e.base = connect w layout url := by
    intro w
    unfold connect
    rw [hsame, he]
  refine ⟨e, he, hsame, ?_, fun w => ⟨hconnect w, fun r hr => ?_⟩⟩
  · unfold CommandLine.isUrl
    rw [CommandLine.hasHostMark_iff, htext]
    exact ha.hostMark_infix
  · have hshown := display_of_connect hr he
    exact ⟨hshown, by rw [hshown, hconnect w]⟩

/-- A URL whose path is cut away. -/
theorem connect_display_root :
    Endpoint.ofUrl "HTTPS://U@Host.org:443/./b/..//" {} =
      .ok ⟨"https://U@host.org", "control", none⟩ ∧
    Endpoint.ofUrl "https://U@host.org" {} = .ok ⟨"https://U@host.org", "control", none⟩ := by
  have hu : Url.parse "HTTPS://U@Host.org:443/./b/..//".toList = .ok ⟨"https".toList,
      some ⟨['U'], [], .domain "host.org".toList, none⟩, "//".toList, none, none⟩ := by
    decide +kernel
  obtain ⟨e, he, hsame, -⟩ := connect_display hu (Or.inr rfl) (by decide +kernel) {}
  have hbase : Endpoint.ofUrl "HTTPS://U@Host.org:443/./b/..//" {} =
      .ok ⟨"https://U@host.org", "control", none⟩ := by
    decide +kernel
  obtain rfl : e = ⟨"https://U@host.org", "control", none⟩ := Except.ok.inj (he.symm.trans hbase)
  exact ⟨he, hsame⟩

end Remote

end Stratum
