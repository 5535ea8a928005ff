import Stratum.Proofs.Schemes

/-!
# Text that is encoded already

The parts of a URL are kept as they are written, and they are written so that reading them again
changes nothing. For text with percent signs that is because a percent sign and the hexadecimal
digits behind it stand for themselves (`KeepsBytes`); for a path it is also because its dots have
been resolved (`UrlPath.IsWritten`).

> `isWritten_ofText`: a path that has been read is written so that it is read as it is.
-/

namespace Stratum

namespace Percent

/-- What an encoded byte is made of stands for itself. -/
def KeepsBytes (set : EncodeSet) : Prop := set '%' = false ∧ ∀ n < 16, set (hexDigit n) = false

/-- In names and passwords the sign and the digits of an encoded byte are left alone. -/
theorem keepsBytes_userInfo : KeepsBytes userInfo := by
  unfold KeepsBytes
  decide +kernel

/-- In paths as well. -/
theorem keepsBytes_path : KeepsBytes path := by
  unfold KeepsBytes
  decide +kernel

/-- And in queries. -/
theorem keepsBytes_specialQuery : KeepsBytes specialQuery := by
  unfold KeepsBytes
  decide +kernel

theorem keepsBytes_fragment : KeepsBytes fragment := by
  unfold KeepsBytes
  decide +kernel

/-- So none of the three characters of an encoded byte is encoded again. -/
theorem KeepsBytes.of_mem_byte {set : EncodeSet} (h : KeepsBytes set) {b : UInt8} {c : Char}
    (hc : c ∈ byte b) : set c = false := by
  have hb : b.toNat < 256 := UInt8.toNat_lt b
  have hhigh : b.toNat / 16 < 16 := by omega
  have hlow : b.toNat % 16 < 16 := Nat.mod_lt _ (by decide)
  unfold byte at hc
  rcases List.mem_cons.1 hc with rfl | hc
  · exact h.1
  rcases List.mem_cons.1 hc with rfl | hc
  · exact h.2 _ hhigh
  · rw [List.mem_singleton.1 hc]
    exact h.2 _ hlow

/-- No character of the set is left. -/
theorem KeepsBytes.plain_encode {set : EncodeSet} (h : KeepsBytes set) (s : List Char) :
    ∀ c ∈ encode set s, set c = false := by
  intro c hc
  obtain ⟨d, -, hc⟩ := List.mem_flatMap.1 hc
  by_cases hd : set d = true
  · rw [if_pos hd] at hc
    obtain ⟨b, -, hc⟩ := List.mem_flatMap.1 hc
    exact h.of_mem_byte hc
  · rw [if_neg hd] at hc
    rw [List.mem_singleton.1 hc]
    exact Bool.eq_false_iff.2 hd

/-- A character that is no percent sign and no upper-case hexadecimal digit is in an encoded text
only if it was in the text. -/
theorem not_mem_encode {set : EncodeSet} {c : Char} (hbyte : c ≠ '%' ∧ ∀ n < 16, c ≠ hexDigit n)
    {s : List Char} (hc : c ∉ s) : c ∉ encode set s := by
  have others : KeepsBytes (· == c) := by
    refine ⟨beq_false_of_ne hbyte.1.symm, fun n hn => beq_false_of_ne (hbyte.2 n hn).symm⟩
  intro hmem
  obtain ⟨d, hd, hmem⟩ := List.mem_flatMap.1 hmem
  by_cases hset : set d = true
  · rw [if_pos hset] at hmem
    obtain ⟨b, -, hmem⟩ := List.mem_flatMap.1 hmem
    have hne := others.of_mem_byte hmem
    simp at hne
  · rw [if_neg hset] at hmem
    rw [List.mem_singleton.1 hmem] at hc
    exact hc hd

/-! ## Characters that stand for themselves -/

/-- All of them are in ASCII. -/
theorem lt_of_not_controls {c : Char} (h : controls c = false) : c.toNat < 128 := by
  unfold controls at h
  rw [Bool.or_eq_false_iff, decide_eq_false_iff_not, decide_eq_false_iff_not] at h
  omega

/-- What a fragment leaves alone is ASCII. -/
theorem lt_of_not_fragment {c : Char} (h : fragment c = false) : c.toNat < 128 :=
  lt_of_not_controls (Bool.or_eq_false_iff.1 h).1

/-- What a path leaves alone is, as it leaves alone less. -/
theorem lt_of_not_path {c : Char} (h : path c = false) : c.toNat < 128 :=
  lt_of_not_fragment (Bool.or_eq_false_iff.1 h).1

theorem lt_of_not_userInfo {c : Char} (h : userInfo c = false) : c.toNat < 128 :=
  lt_of_not_path (Bool.or_eq_false_iff.1 h).1

/-- So is what a query leaves alone. -/
theorem lt_of_not_specialQuery {c : Char} (h : specialQuery c = false) : c.toNat < 128 := by
  have hquery := (Bool.or_eq_false_iff.1 h).1
  exact lt_of_not_controls (Bool.or_eq_false_iff.1 hquery).1

/-- What a fragment leaves alone is no blank and no control character. -/
theorem of_not_fragment {c : Char} (h : fragment c = false) : 0x20 < c.toNat :=
  Url.forall_ascii (P := fun c => fragment c = false → 0x20 < c.toNat) (by decide +kernel)
    (lt_of_not_fragment h) h

/-- What a query leaves alone does not end it. -/
theorem of_not_specialQuery {c : Char} (h : specialQuery c = false) :
    0x20 < c.toNat ∧ c ≠ '#' :=
  Url.forall_ascii (P := fun c => specialQuery c = false → 0x20 < c.toNat ∧ c ≠ '#')
    (by decide +kernel) (lt_of_not_specialQuery h) h

/-- What a path leaves alone does not end it. -/
theorem of_not_path {c : Char} (h : path c = false) :
    0x20 < c.toNat ∧ Url.endsPath c = false :=
  Url.forall_ascii (P := fun c => path c = false → 0x20 < c.toNat ∧ Url.endsPath c = false)
    (by decide +kernel) (lt_of_not_path h) h

/-- What the information about a user leaves alone ends neither its parts nor the authority. -/
theorem of_not_userInfo {c : Char} (h : userInfo c = false) :
    0x20 < c.toNat ∧ Url.endsAuthority true c = false ∧ c ≠ ':' ∧ c ≠ '@' :=
  Url.forall_ascii (P := fun c => userInfo c = false →
      0x20 < c.toNat ∧ Url.endsAuthority true c = false ∧ c ≠ ':' ∧ c ≠ '@')
    (by decide +kernel) (lt_of_not_userInfo h) h

/-- The characters that RFC 3986 calls unreserved. -/
def isUnreserved (c : Char) : Bool := c.isAlphanum || ['-', '.', '_', '~'].contains c

theorem lt_of_isUnreserved {c : Char} (h : isUnreserved c = true) : c.toNat < 128 := by
  unfold isUnreserved at h
  rcases Bool.or_eq_true_iff.1 h with h | h
  · have hranges := Text.Quoted.ranges_of_isAlphanum h
    omega
  · rw [List.contains_iff_mem] at h
    have hall : ['-', '.', '_', '~'].all (·.toNat < 128) = true := by decide
    exact of_decide_eq_true (List.all_eq_true.1 hall c h)

/-- A character that stands for itself behind the authority of a URL, and that separates nothing. -/
structure IsInert (c : Char) : Prop where
  path : path c = false
  specialQuery : specialQuery c = false
  fragment : fragment c = false
  ne_slash : c ≠ '/'
  ne_back : c ≠ '\\'

/-- Unreserved characters stand for themselves wherever they are. -/
theorem isInert_of_isUnreserved {c : Char} (h : isUnreserved c = true) : IsInert c := by
  have hall : isUnreserved c = true →
      path c = false ∧ specialQuery c = false ∧ fragment c = false ∧ c ≠ '/' ∧ c ≠ '\\' :=
    Url.forall_ascii (P := fun c => isUnreserved c = true →
        path c = false ∧ specialQuery c = false ∧ fragment c = false ∧ c ≠ '/' ∧ c ≠ '\\')
      (by decide +kernel) (lt_of_isUnreserved h)
  obtain ⟨hpath, hquery, hfragment, hslash, hback⟩ := hall h
  exact ⟨hpath, hquery, hfragment, hslash, hback⟩

end Percent

/-! ## Pieces between separators -/

section Split

variable {α : Type} {p q : α → Bool}

/-- Conditions that agree on a list split it alike. -/
theorem splitOnP_congr {l : List α} (h : ∀ a ∈ l, p a = q a) : l.splitOnP p = l.splitOnP q := by
  induction l with
  | nil => rfl
  | cons a l ih =>
    rw [List.splitOnP_cons_eq_if_modifyHead, List.splitOnP_cons_eq_if_modifyHead,
      h a List.mem_cons_self, ih fun b hb => h b (List.mem_cons_of_mem a hb)]

/-- Pieces have no separator in them, and nothing that was not there before. -/
theorem of_mem_splitOnP {l piece : List α} (h : piece ∈ l.splitOnP p) {a : α} (ha : a ∈ piece) :
    a ∈ l ∧ p a = false := by
  induction l generalizing piece with
  | nil =>
    cases List.mem_singleton.1 h
    cases ha
  | cons b l ih =>
    rw [List.splitOnP_cons_eq_if_modifyHead] at h
    split at h
    next =>
      rcases List.mem_cons.1 h with rfl | h
      · cases ha
      · exact ⟨List.mem_cons_of_mem b (ih h ha).1, (ih h ha).2⟩
    next hb =>
      -- The first character belongs to the first piece, the others are as before.
      cases hl : l.splitOnP p with
      | nil => exact absurd hl (List.splitOnP_ne_nil p l)
      | cons front others =>
        rw [hl, List.modifyHead_cons] at h
        rcases List.mem_cons.1 h with rfl | h
        · rcases List.mem_cons.1 ha with rfl | ha
          · exact ⟨List.mem_cons_self, Bool.eq_false_iff.2 hb⟩
          · have hfront := ih (hl ▸ List.mem_cons_self) ha
            exact ⟨List.mem_cons_of_mem b hfront.1, hfront.2⟩
        · have hothers := ih (hl ▸ List.mem_cons_of_mem front h) ha
          exact ⟨List.mem_cons_of_mem b hothers.1, hothers.2⟩

/-- Nor does putting them together add anything but separators. -/
theorem mem_intercalate {sep a : α} {pieces : List (List α)} (h : a ∈ [sep].intercalate pieces) :
    a = sep ∨ ∃ piece ∈ pieces, a ∈ piece := by
  induction pieces with
  | nil => cases h
  | cons piece others ih =>
    cases others with
    | nil =>
      rw [List.intercalate_singleton] at h
      exact Or.inr ⟨piece, List.mem_cons_self, h⟩
    | cons next others =>
      rw [List.intercalate_cons_cons] at h
      rcases List.mem_append.1 h with h | h
      · rcases List.mem_append.1 h with h | h
        · exact Or.inr ⟨piece, List.mem_cons_self, h⟩
        · exact Or.inl (List.mem_singleton.1 h)
      · rcases ih h with h | ⟨piece', hpiece, h⟩
        · exact Or.inl h
        · exact Or.inr ⟨piece', List.mem_cons_of_mem piece hpiece, h⟩

end Split

namespace UrlPath

/-! ## Paths as they are written -/

/-- A segment that stands for a directory of that name. -/
def IsName (s : List Char) : Prop := isDot s = false ∧ isDotDot s = false

/-- An empty segment is a name: it is neither dot nor dots. -/
theorem isName_nil : IsName [] := by
  unfold IsName
  decide

/-- A path that is read as it is: behind slashes, names in characters that stand for themselves. -/
structure IsWritten (p : List Char) : Prop where
  front : ∃ r, p = '/' :: r
  plain : ∀ c ∈ p, Percent.path c = false ∧ c ≠ '\\'
  names : ∀ s ∈ p.splitOn '/', IsName s

/-- Going up leaves segments out and adds none. -/
theorem up_subset (files : Bool) (done : List (List Char)) : up files done ⊆ done := by
  unfold up
  split
  · split
    · exact List.Subset.refl _
    · exact List.nil_subset _
  · exact List.dropLast_subset _

/-- In the end there are names only, of the segments that were there, and empty ones. -/
theorem forall_mem_resolve {P : List Char → Prop} (hnil : P []) {files : Bool}
    {segments done : List (List Char)} (hdone : ∀ s ∈ done, P s)
    (h : ∀ s ∈ segments, IsName s → P s) : ∀ s ∈ resolve files done segments, P s := by
  induction segments generalizing done with
  | nil => exact hdone
  | cons s rest ih =>
    have hrest : ∀ t ∈ rest, IsName t → P t := fun t ht => h t (List.mem_cons_of_mem s ht)
    have hconcat {done : List (List Char)} {t : List Char} (hdone : ∀ s ∈ done, P s) (ht : P t) :
        ∀ s ∈ done ++ [t], P s := by
      intro s hs
      rcases List.mem_append.1 hs with hs | hs
      · exact hdone s hs
      · exact List.mem_singleton.1 hs ▸ ht
    have hup : ∀ s ∈ up files done, P s := fun s hs => hdone s (up_subset files done hs)
    unfold resolve
    split
    · dsimp only
      split
      · exact hconcat hup hnil
      · exact ih hup hrest
    next hdotdot =>
      split
      · split
        · exact hconcat hdone hnil
        · exact ih hdone hrest
      next hdot =>
        have hname : IsName s := ⟨Bool.eq_false_iff.2 hdot, Bool.eq_false_iff.2 hdotdot⟩
        exact ih (hconcat hdone (h s List.mem_cons_self hname)) hrest

/-- Something is left: the last dot leaves an empty segment. -/
theorem resolve_ne_nil {files : Bool} {segments done : List (List Char)}
    (h : done ≠ [] ∨ segments ≠ []) : resolve files done segments ≠ [] := by
  induction segments generalizing done with
  | nil => exact h.resolve_right fun hnil => hnil rfl
  | cons s rest ih =>
    have hconcat (done : List (List Char)) (t : List Char) : done ++ [t] ≠ [] :=
      List.concat_ne_nil t done
    have hrest (hempty : ¬rest.isEmpty = true) : rest ≠ [] := by
      intro hnil
      rw [hnil] at hempty
      exact hempty rfl
    unfold resolve
    split
    · dsimp only
      split
      · exact hconcat _ _
      next hempty => exact ih (Or.inr (hrest hempty))
    · split
      · split
        · exact hconcat _ _
        next hempty => exact ih (Or.inr (hrest hempty))
      · exact ih (Or.inl (hconcat _ _))

/-! ## Reading and writing -/

/-- A slash in front is an empty piece in front. -/
theorem splitOn_slash (r : List Char) : ('/' :: r).splitOn '/' = [] :: r.splitOn '/' := by
  rw [List.splitOn_cons_eq_if_modifyHead]
  rfl

/-- **A path that has been read is written so that it is read as it is.** -/
theorem isWritten_ofText (files : Bool) (s : List Char) : IsWritten (ofText true files s) := by
  unfold ofText
  dsimp only
  generalize hsegments : (s.splitOnP (isSlash true)).map (Percent.encode Percent.path) = segments
  have hne : resolve files [] segments ≠ [] := by
    refine resolve_ne_nil (Or.inr ?_)
    rw [← hsegments]
    exact fun h => List.splitOnP_ne_nil _ _ (List.map_eq_nil_iff.1 h)
  have hsegment : ∀ t ∈ segments, ∀ c ∈ t, Percent.path c = false ∧ c ≠ '\\' ∧ c ≠ '/' := by
    intro t ht c hc
    rw [← hsegments] at ht
    obtain ⟨piece, hpiece, rfl⟩ := List.mem_map.1 ht
    have hslash (d : Char) (hd : isSlash true d = true) : d ∉ piece := fun hmem => by
      rw [(of_mem_splitOnP hpiece hmem).2] at hd
      cases hd
    refine ⟨Percent.keepsBytes_path.plain_encode piece c hc, ?_, ?_⟩
    · rintro rfl
      exact Percent.not_mem_encode (by decide +kernel) (hslash '\\' (by decide)) hc
    · rintro rfl
      exact Percent.not_mem_encode (by decide +kernel) (hslash '/' (by decide)) hc
  have hresolved : ∀ t ∈ resolve files [] segments,
      IsName t ∧ ∀ c ∈ t, Percent.path c = false ∧ c ≠ '\\' ∧ c ≠ '/' := by
    refine forall_mem_resolve ⟨isName_nil, ?_⟩ ?_ fun t ht hname => ⟨hname, hsegment t ht⟩
    · intro c hc
      cases hc
    · intro t ht
      cases ht
  refine ⟨⟨_, rfl⟩, ?_, ?_⟩
  · intro c hc
    rcases List.mem_cons.1 hc with rfl | hc
    · decide
    rcases mem_intercalate hc with rfl | ⟨t, ht, hc⟩
    · decide
    · have hplain := (hresolved t ht).2 c hc
      exact ⟨hplain.1, hplain.2.1⟩
  · intro t ht
    have hnoSlash : ∀ t ∈ resolve files [] segments, '/' ∉ t := fun t ht hmem =>
      ((hresolved t ht).2 '/' hmem).2.2 rfl
    rw [splitOn_slash, List.splitOn_intercalate '/' hnoSlash hne] at ht
    rcases List.mem_cons.1 ht with rfl | ht
    · exact isName_nil
    · exact (hresolved t ht).1

/-- A path that has been parsed is written. -/
theorem isWritten_hierarchyPath (s : List Char) : IsWritten (Url.hierarchyPath true s) := by
  unfold Url.hierarchyPath
  split
  · exact isWritten_ofText false []
  · exact isWritten_ofText false _

/-- Parsing what is written changes nothing. -/
theorem IsWritten.hierarchyPath_eq {p : List Char} (h : IsWritten p) :
    Url.hierarchyPath true p = p := by
  obtain ⟨r, rfl⟩ := h.front
  have hpieces : r.splitOnP (isSlash true) = r.splitOn '/' := by
    rw [List.splitOn_eq_splitOnP]
    refine splitOnP_congr fun c hc => ?_
    have hback : (c == '\\') = false :=
      beq_false_of_ne (h.plain c (List.mem_cons_of_mem '/' hc)).2
    unfold isSlash
    rw [hback, Bool.and_false, Bool.or_false]
  have hencoded : (r.splitOn '/').map (Percent.encode Percent.path) = r.splitOn '/' := by
    refine List.map_congr_left (g := id) (fun s hs => ?_) |>.trans (List.map_id _)
    refine Percent.encode_of_plain fun c hc => ?_
    rw [List.splitOn_eq_splitOnP] at hs
    exact (h.plain c (List.mem_cons_of_mem '/' (of_mem_splitOnP hs hc).1)).1
  have hnames : ∀ s ∈ r.splitOn '/', isDot s = false ∧ isDotDot s = false := by
    intro s hs
    exact h.names s (by rw [splitOn_slash]; exact List.mem_cons_of_mem [] hs)
  show ofText true false r = '/' :: r
  unfold ofText
  rw [hpieces, hencoded]
  dsimp only
  rw [resolve_plain hnames, List.nil_append, List.intercalate_splitOn]

/-- Only slashes are trimmed. -/
theorem trimEnd_eq (p : List Char) :
    ∃ slashes, p = Endpoint.trimEnd p ++ slashes ∧ ∀ c ∈ slashes, c = '/' := by
  refine ⟨(p.reverse.takeWhile Endpoint.isSlash).reverse, ?_, ?_⟩
  · unfold Endpoint.trimEnd Text.dropEndWhile
    rw [← List.reverse_append, List.takeWhile_append_dropWhile, List.reverse_reverse]
  · intro c hc
    have hslash := List.all_eq_true.1 List.all_takeWhile c (List.mem_reverse.1 hc)
    exact beq_iff_eq.1 hslash

/-- What is left of a path, and a slash behind it, starts with a slash. -/
theorem IsWritten.front_append {p : List Char} (h : IsWritten p) (more : List Char) :
    ∃ r, Endpoint.trimEnd p ++ '/' :: more = '/' :: r := by
  obtain ⟨r, hr⟩ := h.front
  obtain ⟨slashes, hp, -⟩ := trimEnd_eq p
  cases htrim : Endpoint.trimEnd p with
  | nil => exact ⟨more, rfl⟩
  | cons c front =>
    rw [htrim, hr, List.cons_append] at hp
    obtain ⟨rfl, -⟩ := List.cons.inj hp
    exact ⟨front ++ '/' :: more, rfl⟩

/-- **One more name behind a path** is read as it is, whether slashes at the end are dropped before
or not. -/
theorem IsWritten.append {p name : List Char} (h : IsWritten p) (hname : IsName name)
    (hplain : ∀ c ∈ name, Percent.path c = false ∧ c ≠ '\\' ∧ c ≠ '/') :
    IsWritten (Endpoint.trimEnd p ++ '/' :: name) := by
  have hfront := h.front_append name
  obtain ⟨slashes, hp, hslashes⟩ := trimEnd_eq p
  generalize Endpoint.trimEnd p = front at hp hfront ⊢
  refine ⟨hfront, ?_, ?_⟩
  · intro c hc
    rcases List.mem_append.1 hc with hc | hc
    · exact h.plain c (hp ▸ List.mem_append_left slashes hc)
    · rcases List.mem_cons.1 hc with rfl | hc
      · decide
      · exact ⟨(hplain c hc).1, (hplain c hc).2.1⟩
  · intro s hs
    rw [List.splitOn_append_cons_self] at hs
    rcases List.mem_append.1 hs with hs | hs
    · -- What is dropped at the end only adds pieces to those before it.
      refine h.names s ?_
      cases slashes with
      | nil => rwa [hp, List.append_nil]
      | cons c slashes =>
        rw [hp, hslashes c List.mem_cons_self, List.splitOn_append_cons_self]
        exact List.mem_append_left _ hs
    · rw [List.splitOn_eq_singleton fun hmem => (hplain '/' hmem).2.2 rfl] at hs
      exact List.mem_singleton.1 hs ▸ hname

/-- What is left of a path is read as it is, if anything is left. -/
theorem IsWritten.trimEnd {p : List Char} (h : IsWritten p) (hne : Endpoint.trimEnd p ≠ []) :
    IsWritten (Endpoint.trimEnd p) := by
  have hslash : IsWritten (Endpoint.trimEnd p ++ ['/']) :=
    h.append isName_nil (List.forall_mem_nil _)
  refine ⟨?_, ?_, ?_⟩
  · obtain ⟨r, hr⟩ := hslash.front
    obtain ⟨c, s, hs⟩ := List.exists_cons_of_ne_nil hne
    rw [hs] at hr ⊢
    exact ⟨s, by rw [(List.cons.inj hr).1]⟩
  · intro c hc
    exact hslash.plain c (List.mem_append_left _ hc)
  · intro s hs
    refine hslash.names s ?_
    rw [List.splitOn_append_cons_self]
    exact List.mem_append_left _ hs

end UrlPath

end Stratum
