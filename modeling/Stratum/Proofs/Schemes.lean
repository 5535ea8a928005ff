import Stratum.Repository.Remote
import Stratum.Proofs.Outcome

/-!
# The scheme of a URL

What stands below a repository has a URL that begins like that of the repository, so it has the
same scheme. That is not for free: the URL is written, cut at its end, continued and then read
again, and reading drops characters at both ends and inside. But none of them is dropped from the
scheme and its colon, since a scheme is made of characters that are kept (`IsScheme`).

> `scheme_parse_below`: the URLs below a URL have its scheme.
> `IsAt.scheme_below`: those of a repository have that of the repository.
-/

namespace Stratum

open Text

namespace Url

/-! ## Schemes as they are written -/

/-- The characters of a scheme are in ASCII. -/
theorem lt_of_isSchemeChar {c : Char} (h : isSchemeChar c = true) : c.toNat < 128 := by
  unfold isSchemeChar at h
  rw [Bool.or_eq_true, Bool.or_eq_true, Bool.or_eq_true, beq_iff_eq, beq_iff_eq, beq_iff_eq] at h
  rcases h with ((h | rfl) | rfl) | rfl
  · have hranges := Quoted.ranges_of_isAlphanum h
    omega
  all_goals decide

/-- What can be seen of the characters of ASCII one by one holds of all of them. -/
theorem forall_ascii {P : Char → Prop} (h : ∀ n < 128, P (Char.ofNat n)) {c : Char}
    (hc : c.toNat < 128) : P c := by
  have hn := h c.toNat hc
  rwa [Char.ofNat_toNat] at hn

/-- In lower case the characters of a scheme are such characters again, and stay as they are. -/
theorem isSchemeChar_toLower {c : Char} (h : isSchemeChar c = true) :
    isSchemeChar c.toLower = true ∧ c.toLower.toLower = c.toLower ∧
      (c.isAlpha = true → c.toLower.isAlpha = true) :=
  forall_ascii (P := fun c => isSchemeChar c = true → isSchemeChar c.toLower = true ∧
      c.toLower.toLower = c.toLower ∧ (c.isAlpha = true → c.toLower.isAlpha = true))
    (by decide +kernel) (lt_of_isSchemeChar h) h

/-- Neither one of them nor the colon is dropped when a URL is read. -/
theorem kept_of_isSchemeChar {c : Char} (h : isSchemeChar c = true ∨ c = ':') :
    isTrimmed c = false ∧ (c != '\t' && c != '\n' && c != '\r') = true := by
  have hlt : c.toNat < 128 := by
    rcases h with h | rfl
    · exact lt_of_isSchemeChar h
    · decide
  exact forall_ascii (P := fun c => isSchemeChar c = true ∨ c = ':' →
      isTrimmed c = false ∧ (c != '\t' && c != '\n' && c != '\r') = true)
    (by decide +kernel) hlt h

/-- A scheme in lower case. -/
structure IsScheme (s : List Char) : Prop where
  chars : ∀ c ∈ s, isSchemeChar c = true
  lower : s.map Char.toLower = s
  alpha : ∃ c, s.head? = some c ∧ c.isAlpha = true

/-- What is read as a scheme is one. -/
theorem isScheme_of_scheme? {s name r : List Char} (h : scheme? s = some (name, r)) :
    IsScheme name := by
  unfold scheme? at h
  have hchars : ∀ c ∈ s.takeWhile isSchemeChar, isSchemeChar c = true :=
    List.all_eq_true.1 List.all_takeWhile
  generalize s.takeWhile isSchemeChar = front at h hchars
  dsimp only at h
  split at h
  next c r' hhead hrest =>
    split at h
    next halpha =>
      cases h
      refine ⟨?_, ?_, c.toLower, ?_, ?_⟩
      · intro d hd
        obtain ⟨c, hc, rfl⟩ := List.mem_map.1 hd
        exact (isSchemeChar_toLower (hchars c hc)).1
      · rw [List.map_map]
        exact List.map_congr_left fun c hc => (isSchemeChar_toLower (hchars c hc)).2.1
      · rw [List.head?_map, hhead]
        rfl
      · have hmem : c ∈ front := List.mem_of_mem_head? hhead
        exact (isSchemeChar_toLower (hchars c hmem)).2.2 halpha
    next => cases h
  next => cases h

/-- A scheme with a colon behind it is read as it is. -/
theorem IsScheme.scheme?_eq {name : List Char} (h : IsScheme name) (r : List Char) :
    scheme? (name ++ ':' :: r) = some (name, r) := by
  obtain ⟨c, hhead, halpha⟩ := h.alpha
  have htake : (name ++ ':' :: r).takeWhile isSchemeChar = name := by
    rw [List.takeWhile_append_of_pos h.chars, List.takeWhile_cons_of_neg (by decide),
      List.append_nil]
  unfold scheme?
  rw [htake]
  simp only [hhead, List.drop_left, halpha, if_true, h.lower]

/-- **Reading drops nothing up to the colon behind a scheme.** -/
theorem IsScheme.clean_eq {name : List Char} (h : IsScheme name) (r : List Char) :
    ∃ r', clean (name ++ ':' :: r) = name ++ ':' :: r' := by
  obtain ⟨c, hhead, -⟩ := h.alpha
  obtain ⟨rest, rfl⟩ : ∃ rest, name = c :: rest := List.head?_eq_some_iff.1 hhead
  have hkept : ∀ d ∈ c :: rest, isSchemeChar d = true ∨ d = ':' := fun d hd =>
    Or.inl (h.chars d hd)
  -- The first character stays, and at the other end nothing is dropped past the colon.
  have hfront : (c :: rest ++ ':' :: r).dropWhile isTrimmed = c :: rest ++ ':' :: r :=
    List.dropWhile_cons_of_neg (by rw [(kept_of_isSchemeChar (hkept c List.mem_cons_self)).1]; simp)
  unfold clean
  rw [hfront, Text.dropEndWhile_append_cons (kept_of_isSchemeChar (Or.inr rfl)).1,
    List.filter_append, List.filter_eq_self.2 fun d hd => (kept_of_isSchemeChar (hkept d hd)).2]
  exact ⟨_, rfl⟩

/-! ## URLs as they are read -/

/-- The scheme of a URL with an authority is the one that was read. -/
theorem scheme_ofHierarchy {scheme s : List Char} {u : Url} (h : ofHierarchy scheme s = .ok u) :
    u.scheme = scheme := by
  obtain ⟨⟨authority, rest⟩, -, h⟩ := Outcome.bind_eq_ok_iff.1 h
  cases h
  rfl

/-- That of a file URL is `file`. -/
theorem scheme_ofFile {s : List Char} {u : Url} (h : ofFile s = .ok u) :
    u.scheme = "file".toList := by
  unfold ofFile at h
  dsimp only at h
  split at h
  · split at h
    · obtain ⟨_, -, h⟩ := Outcome.bind_eq_ok_iff.1 h
      cases h
      rfl
    · cases h
      rfl
  · cases h
    rfl

/-- The scheme of a URL is what is read first. -/
theorem scheme?_of_parse {s : List Char} {u : Url} (h : parse s = .ok u) :
    ∃ r, scheme? (clean s) = some (u.scheme, r) := by
  unfold parse at h
  cases hs : scheme? (clean s) with
  | none =>
    rw [hs] at h
    cases h
  | some front =>
    obtain ⟨scheme, r⟩ := front
    suffices u.scheme = scheme from ⟨r, by rw [this]⟩
    rw [hs] at h
    dsimp only at h
    split at h
    next hfile => rw [scheme_ofFile h, hfile]
    next =>
      split at h
      · exact scheme_ofHierarchy h
      · split at h
        · exact scheme_ofHierarchy h
        · cases h
          rfl

/-- A scheme is what is read in front of its colon, in lower case. -/
theorem eq_of_scheme? {s name r : List Char} (h : scheme? s = some (name, r)) :
    name = (s.takeWhile isSchemeChar).map Char.toLower := by
  unfold scheme? at h
  dsimp only at h
  split at h
  next =>
    split at h
    next => exact (Prod.mk.inj (Option.some.inj h)).1.symm
    next => cases h
  next => cases h

/-- A URL that starts with a character of schemes has a scheme that starts with it. -/
theorem head?_scheme_of_parse {s : List Char} {u : Url} (h : parse s = .ok u) {c : Char}
    (hc : s.head? = some c) (hscheme : isSchemeChar c = true) :
    u.scheme.head? = some c.toLower := by
  obtain ⟨hkept, hfilter⟩ := kept_of_isSchemeChar (Or.inl hscheme)
  obtain ⟨rest, rfl⟩ : ∃ rest, s = c :: rest := List.head?_eq_some_iff.1 hc
  obtain ⟨rest', hclean⟩ : ∃ rest', clean (c :: rest) = c :: rest' := by
    have hfront : (c :: rest).dropWhile isTrimmed = c :: rest :=
      List.dropWhile_cons_of_neg (by rw [hkept]; exact Bool.false_ne_true)
    have hend : dropEndWhile isTrimmed (c :: rest) = c :: dropEndWhile isTrimmed rest :=
      Text.dropEndWhile_append_cons hkept [] rest
    unfold clean
    rw [hfront, hend]
    exact ⟨_, List.filter_cons_of_pos hfilter⟩
  obtain ⟨r, hs⟩ := scheme?_of_parse h
  rw [hclean] at hs
  rw [eq_of_scheme? hs, List.takeWhile_cons_of_pos hscheme]
  rfl

/-- A URL is written with its scheme at the front. -/
theorem text_eq_scheme (u : Url) : ∃ r, u.text = u.scheme ++ ':' :: r := by
  refine ⟨u.authorityText ++ u.path ++ part '?' u.query ++ part '#' u.fragment, ?_⟩
  simp [text, stem]

/-- **The URLs below a URL have its scheme.** -/
theorem scheme_parse_below {s more : List Char} {u v : Url} (hu : parse s = .ok u)
    (hv : parse (Endpoint.trimEnd u.text ++ more) = .ok v) : v.scheme = u.scheme := by
  obtain ⟨_, hs⟩ := scheme?_of_parse hu
  have hscheme := isScheme_of_scheme? hs
  obtain ⟨r, hr⟩ := text_eq_scheme u
  -- The slashes that are cut off stand behind the colon.
  have htext : Endpoint.trimEnd u.text ++ more =
      u.scheme ++ ':' :: (dropEndWhile Endpoint.isSlash r ++ more) := by
    unfold Endpoint.trimEnd
    rw [hr, Text.dropEndWhile_append_cons (by decide)]
    simp
  obtain ⟨r', hclean⟩ := hscheme.clean_eq (dropEndWhile Endpoint.isSlash r ++ more)
  obtain ⟨_, hv⟩ := scheme?_of_parse hv
  rw [htext, hclean, hscheme.scheme?_eq] at hv
  exact (Prod.mk.inj (Option.some.inj hv)).1.symm

end Url

namespace Endpoint

/-- The place is that of the repository at a URL. -/
def IsAt (e : Endpoint) (url : String) : Prop :=
  ∃ u, Url.parse url.toList = .ok u ∧ e.base = String.ofList (trimEnd u.text)

/-- The place that a URL names is. -/
theorem isAt_of_ofUrl {url : String} {layout : Layout} {e : Endpoint}
    (h : ofUrl url layout = .ok e) : e.IsAt url := by
  unfold ofUrl at h
  split at h
  next => cases h
  next u hu =>
    cases h
    exact ⟨u, hu, rfl⟩

/-- A place does not depend on what is known of it. -/
theorem IsAt.of_base {url : String} {e e' : Endpoint} (h : e.IsAt url)
    (hbase : e'.base = e.base) : e'.IsAt url := by
  obtain ⟨u, hu, hat⟩ := h
  exact ⟨u, hu, hbase.trans hat⟩

/-- So what stands below a repository has the scheme of the repository. -/
theorem IsAt.scheme_below {url more : String} {e : Endpoint} {v : Url} (h : e.IsAt url)
    (hv : Url.parse (e.base ++ more).toList = .ok v) :
    ∃ u, Url.parse url.toList = .ok u ∧ v.scheme = u.scheme := by
  obtain ⟨u, hu, hbase⟩ := h
  rw [hbase, String.toList_append, String.toList_ofList] at hv
  exact ⟨u, hu, Url.scheme_parse_below hu hv⟩

end Endpoint

end Stratum
