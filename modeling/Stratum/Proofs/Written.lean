import Stratum.Proofs.Authorities
import Stratum.Proofs.Lines

/-!
# URLs that are read as they are written

A URL of a server is its front, which ends with host and TCP port, and then path, query and
fragment. When it is written and read again, each of these is found where it was, and as it was
(`IsWritten`); only the host is looked up anew. Nothing else can be said of text that has been put
together by hand, so this is what everything rests on that is said of longer URLs.

> `isWritten_of_parse`: what has been read is written so.
> `IsWritten.parse_text`: what is written so is read back.
-/

namespace Stratum

open Text

namespace Url

/-- A URL of a server that is read as it is written. -/
structure IsWritten (u : Url) (a : Authority) : Prop where
  scheme : IsScheme u.scheme
  special : isSpecial u.scheme = true
  notFile : u.scheme ≠ "file".toList
  authority_eq : u.authority = some a
  authority : a.IsWritten u.scheme
  path : UrlPath.IsWritten u.path
  query : ∀ q, u.query = some q → ∀ c ∈ q, Percent.specialQuery c = false
  fragment : ∀ f, u.fragment = some f → ∀ c ∈ f, Percent.fragment c = false

/-- The URL of a server from its authority and what follows it. -/
def ofRest (scheme : List Char) (a : Authority) (rest : List Char) : Url :=
  let before := rest.takeWhile (!endsPath ·)
  let (query, fragment) := tail true (rest.drop before.length)
  { scheme, authority := some a, path := hierarchyPath true before, query, fragment }

variable {scheme : List Char} {u : Url} {a : Authority}

/-- Behind a special scheme stand an authority and the rest. -/
theorem ofHierarchy_special (special : isSpecial scheme = true) (s : List Char) :
    ofHierarchy scheme s = (takeAuthority scheme s).map fun (a, rest) => ofRest scheme a rest := by
  unfold ofHierarchy
  rw [special]
  cases takeAuthority scheme s with
  | error e => rfl
  | ok found => rfl

/-- Query and fragment are encoded when they have been parsed. -/
theorem plain_of_tail (s : List Char) :
    (∀ q, (tail true s).1 = some q → ∀ c ∈ q, Percent.specialQuery c = false) ∧
    ∀ f, (tail true s).2 = some f → ∀ c ∈ f, Percent.fragment c = false := by
  unfold tail
  dsimp only
  split
  next r =>
    rw [if_pos rfl]
    dsimp only
    refine ⟨fun q hq => ?_, fun f hf => ?_⟩
    · obtain rfl := Option.some.inj hq
      exact Percent.keepsBytes_specialQuery.plain_encode _
    · split at hf
      · obtain rfl := Option.some.inj hf
        exact Percent.keepsBytes_fragment.plain_encode _
      · cases hf
  next =>
    refine ⟨fun q hq => ?_, fun f hf => ?_⟩
    · cases hq
    · split at hf
      · obtain rfl := Option.some.inj hf
        exact Percent.keepsBytes_fragment.plain_encode _
      · cases hf

/-- **A URL of a server is written so that it is read as it is.** -/
theorem isWritten_of_parse {s : List Char} (h : parse s = .ok u)
    (special : isSpecial u.scheme = true) (notFile : u.scheme ≠ "file".toList) :
    ∃ a, u.IsWritten a := by
  obtain ⟨r, hs⟩ := scheme?_of_parse h
  unfold parse at h
  rw [hs] at h
  dsimp only at h
  rw [if_neg notFile, if_pos special, ofHierarchy_special special] at h
  obtain ⟨⟨a, rest⟩, hauthority, hu⟩ := Outcome.map_eq_ok_iff.1 h
  have htail := plain_of_tail (rest.drop (rest.takeWhile (!endsPath ·)).length)
  refine ⟨a, ?_⟩
  exact {
    scheme := isScheme_of_scheme? hs
    special := special
    notFile := notFile
    authority_eq := by rw [← hu]; rfl
    authority := isWritten_of_takeAuthority special hauthority
    path := by rw [← hu]; exact UrlPath.isWritten_hierarchyPath _
    query := by rw [← hu]; exact htail.1
    fragment := by rw [← hu]; exact htail.2 }

/-- **A URL of the web is written** as it was parsed. -/
theorem isWritten_of_web {s : List Char} (h : parse s = .ok u)
    (web : u.scheme = "http".toList ∨ u.scheme = "https".toList) : ∃ a, u.IsWritten a := by
  refine isWritten_of_parse h ?_ ?_
  · rcases web with web | web
    · rw [web]
      decide +kernel
    · rw [web]
      decide +kernel
  · rcases web with web | web
    · rw [web]
      decide
    · rw [web]
      decide

theorem isWritten_of_http {s : List Char} (h : parse s = .ok u)
    (http : u.scheme = "http".toList) : ∃ a, u.IsWritten a :=
  isWritten_of_web h (Or.inl http)

/-- Query and fragment come back from their text. -/
theorem tail_eq {query fragment : Option (List Char)}
    (hquery : ∀ q, query = some q → ∀ c ∈ q, Percent.specialQuery c = false)
    (hfragment : ∀ f, fragment = some f → ∀ c ∈ f, Percent.fragment c = false) :
    tail true (part '?' query ++ part '#' fragment) = (query, fragment) := by
  -- In a query there is no mark that could start the fragment.
  have hmark : ∀ q, query = some q → (q ++ part '#' fragment).takeWhile (· != '#') = q := by
    intro q hq
    have hplain : ∀ c ∈ q, (c != '#') = true := fun c hc =>
      bne_iff_ne.2 (Percent.of_not_specialQuery (hquery q hq c hc)).2
    rw [List.takeWhile_append_of_pos hplain]
    cases fragment with
    | none => exact List.append_nil q
    | some f =>
      rw [part, List.takeWhile_cons_of_neg (by decide), List.append_nil]
  cases query with
  | none =>
    cases fragment with
    | none => rfl
    | some f =>
      show (none, some (Percent.encode Percent.fragment f)) = (none, some f)
      rw [Percent.encode_of_plain (hfragment f rfl)]
  | some q =>
    have htake := hmark q rfl
    have hplain := Percent.encode_of_plain (hquery q rfl)
    rw [part, List.cons_append, tail, htake, List.drop_left, if_pos rfl, hplain]
    cases fragment with
    | none => rfl
    | some f =>
      show (some q, some (Percent.encode Percent.fragment f)) = (some q, some f)
      rw [Percent.encode_of_plain (hfragment f rfl)]

/-- What follows the authority is read as it is written. -/
theorem IsWritten.ofRest_eq (h : u.IsWritten a) (b : Authority) :
    ofRest u.scheme b (u.path ++ (part '?' u.query ++ part '#' u.fragment)) =
      { u with authority := some b } := by
  have hbefore : (u.path ++ (part '?' u.query ++ part '#' u.fragment)).takeWhile (!endsPath ·) =
      u.path := by
    have hplain : ∀ c ∈ u.path, (!endsPath c) = true := fun c hc => by
      rw [(Percent.of_not_path (h.path.plain c hc).1).2]
      rfl
    rw [List.takeWhile_append_of_pos hplain]
    -- The path is ended by the first mark behind it, if there is one.
    have hquestion : endsPath '?' = true := by decide
    have hhash : endsPath '#' = true := by decide
    cases u.query with
    | some q =>
      rw [part, List.cons_append, List.takeWhile_cons_of_neg (by rw [hquestion]; decide),
        List.append_nil]
    | none =>
      cases u.fragment with
      | some f =>
        rw [part, part, List.nil_append, List.takeWhile_cons_of_neg (by rw [hhash]; decide),
          List.append_nil]
      | none => exact List.append_nil _
  unfold ofRest
  dsimp only
  rw [hbefore, List.drop_left, tail_eq h.query h.fragment, h.path.hierarchyPath_eq]

/-! ## Nothing is dropped -/

/-- What has no blanks and no control characters is not cleaned. -/
theorem clean_eq_self {s : List Char} (h : ∀ c ∈ s, 0x20 < c.toNat) : clean s = s := by
  have hkept : ∀ c ∈ s, isTrimmed c = false := fun c hc =>
    decide_eq_false (Nat.not_le.2 (h c hc))
  unfold clean
  rw [dropWhile_eq_self hkept, dropEndWhile_eq_self hkept]
  refine List.filter_eq_self.2 fun c hc => ?_
  have hblank (d : Char) (hd : d.toNat ≤ 0x20) : (c != d) = true := by
    refine bne_iff_ne.2 ?_
    rintro rfl
    exact absurd (h c hc) (Nat.not_lt.2 hd)
  rw [hblank '\t' (by decide), hblank '\n' (by decide), hblank '\r' (by decide)]
  rfl

/-- What stands before the path of a URL. -/
def front (scheme : List Char) (a : Authority) : List Char :=
  scheme ++ ':' :: '/' :: '/' :: (userText a ++ hostText a)

/-- The text is scheme and authority, path, query and fragment. -/
theorem IsWritten.text_eq (h : u.IsWritten a) :
    u.text = front u.scheme a ++ (u.path ++ (part '?' u.query ++ part '#' u.fragment)) := by
  simp [text, stem, authorityText, front, h.authority_eq]

theorem IsWritten.plain_front (h : u.IsWritten a) :
    ∀ c ∈ front u.scheme a, 0x20 < c.toNat := by
  intro c hc
  unfold front at hc
  simp only [List.mem_append, List.mem_cons] at hc
  rcases hc with hc | rfl | rfl | rfl | hc | hc
  · have hkept := kept_of_isSchemeChar (Or.inl (h.scheme.chars c hc))
    exact Nat.not_le.1 (of_decide_eq_false hkept.1)
  · decide
  · decide
  · decide
  · exact (h.authority.plain_userText c hc).1
  · exact (h.authority.plain_hostText c hc).1

/-- Behind an authority that is written like that anything can stand that may follow one. -/
theorem IsWritten.parse_front (h : u.IsWritten a) {r : List Char} (hr : FollowsAuthority r)
    (hplain : ∀ c ∈ r, 0x20 < c.toNat) :
    parse (front u.scheme a ++ r) =
      (Host.ofSpecial a.host.text).map fun host => ofRest u.scheme { a with host } r := by
  have hkept : ∀ c ∈ front u.scheme a ++ r, 0x20 < c.toNat := by
    intro c hc
    rcases List.mem_append.1 hc with hc | hc
    · exact h.plain_front c hc
    · exact hplain c hc
  have hfront : front u.scheme a ++ r =
      u.scheme ++ ':' :: '/' :: '/' :: (userText a ++ (hostText a ++ r)) := by
    simp [front]
  unfold parse
  rw [clean_eq_self hkept, hfront, h.scheme.scheme?_eq]
  dsimp only
  rw [if_neg h.notFile, if_pos h.special, h.authority.dropWhile_slashes,
    ofHierarchy_special h.special, h.authority.takeAuthority_eq h.special hr]
  cases Host.ofSpecial a.host.text <;> rfl

/-- The URL with another host. -/
def withHost (u : Url) (host : Host) : Url :=
  { u with authority := u.authority.map fun a => { a with host } }

/-- **What is written so is read back**, but for the host, whose text is looked up anew. -/
theorem IsWritten.parse_text (h : u.IsWritten a) :
    parse u.text = (Host.ofSpecial a.host.text).map u.withHost := by
  obtain ⟨r, hr⟩ := h.path.front
  have hpart (mark : Char) {s : Option (List Char)} (hmark : 0x20 < mark.toNat)
      (hs : ∀ t, s = some t → ∀ c ∈ t, 0x20 < c.toNat) : ∀ c ∈ part mark s, 0x20 < c.toNat := by
    intro c hc
    cases s with
    | none => cases hc
    | some t =>
      rcases List.mem_cons.1 hc with rfl | hc
      · exact hmark
      · exact hs t rfl c hc
  have hquery := hpart '?' (by decide) fun q hq c hc =>
    (Percent.of_not_specialQuery (h.query q hq c hc)).1
  have hfragment := hpart '#' (by decide) fun f hf c hc =>
    Percent.of_not_fragment (h.fragment f hf c hc)
  have hplain : ∀ c ∈ u.path ++ (part '?' u.query ++ part '#' u.fragment), 0x20 < c.toNat := by
    intro c hc
    rcases List.mem_append.1 hc with hc | hc
    · exact (Percent.of_not_path (h.path.plain c hc).1).1
    · rcases List.mem_append.1 hc with hc | hc
      · exact hquery c hc
      · exact hfragment c hc
  have hfollows : FollowsAuthority (u.path ++ (part '?' u.query ++ part '#' u.fragment)) := by
    rw [hr]
    exact followsAuthority_slash _
  rw [h.text_eq, h.parse_front hfollows hplain]
  cases Host.ofSpecial a.host.text with
  | error e => rfl
  | ok host =>
    refine congrArg Except.ok ((h.ofRest_eq _).trans ?_)
    unfold withHost
    rw [h.authority_eq]
    rfl

end Url

end Stratum
