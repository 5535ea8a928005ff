import Stratum.Proofs.Digits
import Stratum.Proofs.FirstValues
import Stratum.Proofs.Words

/-!
# A manifest in its own words

The fields that a manifest holds, written one to a line, are a header from which that manifest is
read. This asks for nothing but that the manifest has been read itself: what comes out of a header
fits into one again. The order of the lines is free, for no two have the same key.

> `isHeaderLine_of_mem_header`: what is read from a line can be written in one.
> `SaidBy.of_entries`: the fields that a manifest holds say that manifest.
> `ofBytes_headerOf`: a manifest is read back from its own fields.
-/

namespace Stratum

namespace Keyed

variable {κ ν : Type}

/-- The pairs of which there is a second part. -/
def present (ps : List (κ × Option ν)) : List (κ × ν) := ps.filterMap fun p => p.2.map (p.1, ·)

theorem present_cons_none (k : κ) (ps : List (κ × Option ν)) :
    present ((k, none) :: ps) = present ps := rfl

theorem present_cons_some (k : κ) (v : ν) (ps : List (κ × Option ν)) :
    present ((k, some v) :: ps) = (k, v) :: present ps := rfl

/-- Present are the entries that have a value. -/
theorem mem_present_iff {e : κ × ν} {ps : List (κ × Option ν)} :
    e ∈ present ps ↔ (e.1, some e.2) ∈ ps := by
  unfold present
  rw [List.mem_filterMap]
  constructor
  · intro h
    obtain ⟨⟨k, o⟩, hp, hmap⟩ := h
    obtain ⟨v, hv, rfl⟩ := Option.map_eq_some_iff.1 hmap
    rwa [← hv]
  · intro h
    exact ⟨_, h, rfl⟩

/-- Leaving out entries keeps the order of the keys. -/
theorem keys_present_sublist (ps : List (κ × Option ν)) :
    ((present ps).map Prod.fst).Sublist (ps.map Prod.fst) := by
  induction ps with
  | nil => exact List.Sublist.refl _
  | cons p ps ih =>
    obtain ⟨k, o⟩ := p
    cases o with
    | none => exact ih.cons k
    | some v => exact ih.cons_cons k

variable [BEq κ] [LawfulBEq κ]

/-- A key that is not among those of the pairs is looked up in vain. -/
theorem lookup_eq_none_of_not_mem {k : κ} {es : List (κ × ν)} (h : k ∉ es.map Prod.fst) :
    es.lookup k = none := by
  rw [List.lookup_eq_none_iff]
  intro e he
  exact bne_iff_ne.2 fun hk => h (hk ▸ List.mem_map_of_mem he)

variable [DecidableEq κ]

/-- Where every key occurs once, every pair is found under its key. -/
theorem lookup_of_mem {e : κ × ν} {es : List (κ × ν)} (hkeys : (es.map Prod.fst).Nodup)
    (h : e ∈ es) : es.lookup e.1 = some e.2 := by
  induction es with
  | nil => cases h
  | cons d es ih =>
    obtain ⟨hd, hkeys⟩ := List.nodup_cons.1 hkeys
    rw [lookup_cons]
    rcases List.mem_cons.1 h with rfl | h
    · exact if_pos rfl
    · have hne : e.1 ≠ d.1 := fun he => hd (he ▸ List.mem_map_of_mem h)
      rw [if_neg hne, ih hkeys h]

/-- An entry without a value is as good as none. -/
theorem lookup_present {ps : List (κ × Option ν)} (hkeys : (ps.map Prod.fst).Nodup) (k : κ) :
    (present ps).lookup k = (ps.lookup k).join := by
  induction ps with
  | nil => rfl
  | cons p ps ih =>
    obtain ⟨j, o⟩ := p
    obtain ⟨hj, hkeys⟩ := List.nodup_cons.1 hkeys
    have ih := ih hkeys
    rw [lookup_cons k (j, o)]
    by_cases hk : k = j
    · rw [if_pos hk]
      cases o with
      | none =>
        have hnone : k ∉ (present ps).map Prod.fst := fun hmem =>
          hj (hk ▸ (keys_present_sublist ps).subset hmem)
        rw [present_cons_none, lookup_eq_none_of_not_mem hnone]
        rfl
      | some v =>
        rw [present_cons_some, lookup_cons, if_pos hk]
        rfl
    · rw [if_neg hk, ← ih]
      cases o with
      | none => rw [present_cons_none]
      | some v => rw [present_cons_some, lookup_cons, if_neg hk]

end Keyed

namespace Manifest

open Text Text.Numeral

/-! ## What can be written in a line -/

/-- **What is read from a line of a header can be written in one.** -/
theorem isHeaderLine_of_mem_header {content : Bytes} {line : List Char}
    (h : line ∈ header content) : IsHeaderLine line := by
  have hnotEnd : line ≠ terminator := bne_iff_ne.1 (List.mem_takeWhile_imp (p := (· != terminator)) h)
  obtain ⟨l, hl, rfl⟩ := List.mem_map.1 (List.takeWhile_subset _ h)
  have hends : Line.Ends (if l.ended then [Line.feed] else []) := by
    cases l.ended with
    | false => exact List.forall_mem_nil _
    | true => exact fun b hb => Or.inr (List.mem_singleton.1 hb)
  have hbytes : l.bytes = l.body ++ if l.ended then [Line.feed] else [] := by
    unfold Line.bytes
    cases l.ended with
    | false => exact (List.append_nil _).symm
    | true => rfl
  rw [lineText_of_ends hbytes hends] at hnotEnd ⊢
  refine ⟨?_, ?_, hnotEnd⟩
  · intro hfeed
    have hdecoded : '\n' ∈ Utf8.decodeLossy l.body := (prefix_dropEndWhile _ _).subset hfeed
    exact Line.feed_not_mem_body hl (Utf8.mem_of_mem_decodeLossy (by decide) hdecoded)
  · intro hreturn
    exact absurd (getLast?_dropEndWhile hreturn) (by decide)

/-- A number is a word. -/
theorem isWord_digits (n : Nat) : IsWord (digits n) :=
  ⟨digits_ne_nil n, fun c hc => not_isBlank_of_isDigit (List.all_eq_true.1 (all_isDigit_digits n) c hc)⟩

theorem isWord_signed (z : Int) : IsWord (signed z) := by
  unfold signed
  split
  · refine ⟨List.cons_ne_nil _ _, ?_⟩
    intro c hc
    rcases List.mem_cons.1 hc with rfl | hc
    · rfl
    · exact (isWord_digits z.natAbs).2 c hc
  · exact isWord_digits z.natAbs

/-- A word behind a key with a meaning of its own can be written in a line. -/
theorem isHeaderLine_of_isWord {key : Char} (hkey : key ∈ knownKeys) {w : List Char}
    (hw : IsWord w) : IsHeaderLine (key :: w) := by
  have hknown : knownKeys.all (fun key => !isBlank key && key != '-') = true := by decide
  obtain ⟨hblank, hdash⟩ : isBlank key = false ∧ key ≠ '-' := by
    simpa using List.all_eq_true.1 hknown key hkey
  have hline : ∀ c ∈ key :: w, isBlank c = false := List.forall_mem_cons.2 ⟨hblank, hw.2⟩
  refine ⟨?_, ?_, ?_⟩
  · intro hfeed
    exact absurd (hline _ hfeed) (by decide)
  · intro hreturn
    exact absurd (hline _ (List.mem_of_getLast? hreturn)) (by decide)
  · intro hend
    exact hdash (List.cons.inj hend).1

/-! ## The fields that a manifest holds -/

/-- What a manifest says under each key with a meaning of its own. -/
def known (m : Manifest) : List (Char × Option String) :=
  [('N', some m.repositoryName), ('C', m.rootCatalog), ('R', m.rootHash),
    ('B', m.rootCatalogSize.map unsignedText), ('X', m.certificate), ('H', m.historyDatabase),
    ('T', m.lastModified.map signedText), ('D', m.ttl.map unsignedText),
    ('S', m.revision.map unsignedText), ('G', if m.garbageCollectable then some "yes" else none)]

theorem keys_known (m : Manifest) : m.known.map Prod.fst = knownKeys := rfl

/-- No known field occurs twice. -/
theorem nodup_known (m : Manifest) : (m.known.map Prod.fst).Nodup := by
  rw [keys_known]
  decide

/-- The entries of a manifest are the known fields that it has, and then the others. -/
theorem entries_eq (m : Manifest) : m.entries = Keyed.present m.known ++ m.other.entries := by
  have hpresent : ∀ ps : List (Char × Option String),
      Keyed.present ps = (ps.map fun p => p.2.map (p.1, ·)).reduceOption := by
    intro ps
    unfold Keyed.present List.reduceOption
    rw [List.filterMap_map]
    rfl
  unfold entries
  rw [hpresent]
  cases hcollectable : m.garbageCollectable <;> simp [known, hcollectable, Function.comp_def]

/-- A look-up among the fields of a manifest. -/
theorem lookup_entries_eq (m : Manifest) (key : Char) :
    m.entries.lookup key = (m.known.lookup key).join.or (m.other.get? key) := by
  rw [entries_eq, List.lookup_append, Keyed.lookup_present m.nodup_known]
  rfl

section

variable {fs : CharMap} {m : Manifest}

/-- The other fields of a manifest have other keys. -/
theorem SaidBy.other_get? (h : SaidBy fs m) {key : Char} (hkey : key ∈ knownKeys) :
    m.other.get? key = none := by
  rw [← h.other, CharMap.get?_filterKeys, List.contains_iff_mem.2 hkey]
  rfl

/-- A map has every key once. -/
theorem nodup_keys (es : CharMap) : (es.entries.map Prod.fst).Nodup := by
  rw [List.nodup_iff_pairwise_ne, List.pairwise_map]
  exact es.ascending.imp fun hlt heq => absurd (congrArg Char.toNat heq) (Nat.ne_of_lt hlt)

/-- So every key occurs once. -/
theorem SaidBy.nodup_entries (h : SaidBy fs m) : (m.entries.map Prod.fst).Nodup := by
  have hknown := keys_known m ▸ Keyed.keys_present_sublist m.known
  rw [entries_eq, List.map_append, List.nodup_append]
  refine ⟨List.Sublist.nodup hknown (keys_known m ▸ m.nodup_known), nodup_keys m.other, ?_⟩
  rintro key hkey _ hother rfl
  obtain ⟨e, he, rfl⟩ := List.mem_map.1 hother
  have hsome := Keyed.lookup_of_mem (nodup_keys m.other) he
  have hnone : m.other.entries.lookup e.1 = none := h.other_get? (hknown.subset hkey)
  rw [hnone] at hsome
  cases hsome

/-- A field that a manifest holds was there, or it is a word for what was there. -/
theorem SaidBy.of_mem_entries (h : SaidBy fs m) {e : Char × String} (he : e ∈ m.entries) :
    fs.get? e.1 = some e.2 ∨ e.1 ∈ knownKeys ∧ IsWord e.2.toList := by
  obtain ⟨key, value⟩ := e
  rw [entries_eq, List.mem_append, Keyed.mem_present_iff] at he
  rcases he with he | he
  · have hunsigned : ∀ {n : Option UInt64}, n.map unsignedText = some value →
        IsWord value.toList := by
      intro n hn
      obtain ⟨n, -, rfl⟩ := Option.map_eq_some_iff.1 hn
      rw [unsignedText, String.toList_ofList]
      exact isWord_digits _
    have hsigned : ∀ {n : Option Int64}, n.map signedText = some value →
        IsWord value.toList := by
      intro n hn
      obtain ⟨n, -, rfl⟩ := Option.map_eq_some_iff.1 hn
      rw [signedText, String.toList_ofList]
      exact isWord_signed _
    simp only [known, List.mem_cons, Prod.mk.injEq, List.not_mem_nil, or_false] at he
    rcases he with ⟨rfl, hv⟩ | ⟨rfl, hv⟩ | ⟨rfl, hv⟩ | ⟨rfl, hv⟩ | ⟨rfl, hv⟩ | ⟨rfl, hv⟩ | ⟨rfl, hv⟩ |
      ⟨rfl, hv⟩ | ⟨rfl, hv⟩ | ⟨rfl, hv⟩
    · exact Or.inl (h.repositoryName.1.trans hv.symm)
    · exact Or.inl (h.rootCatalog.trans hv.symm)
    · exact Or.inl (h.rootHash.trans hv.symm)
    · exact Or.inr ⟨show 'B' ∈ knownKeys by decide, hunsigned hv.symm⟩
    · exact Or.inl (h.certificate.trans hv.symm)
    · exact Or.inl (h.historyDatabase.trans hv.symm)
    · exact Or.inr ⟨show 'T' ∈ knownKeys by decide, hsigned hv.symm⟩
    · exact Or.inr ⟨show 'D' ∈ knownKeys by decide, hunsigned hv.symm⟩
    · exact Or.inr ⟨show 'S' ∈ knownKeys by decide, hunsigned hv.symm⟩
    · have hyes : value = "yes" := by
        split at hv
        · exact Option.some.inj hv
        · cases hv
      subst hyes
      exact Or.inr (by decide)
  · left
    have hother : m.other.get? key = some value := Keyed.lookup_of_mem (nodup_keys m.other) he
    rw [← h.other, CharMap.get?_filterKeys] at hother
    split at hother
    · exact hother
    · cases hother

end

/-! ## Reading them again -/

/-- The line of a field as text. -/
def fieldText (e : Char × String) : List Char := e.1 :: e.2.toList

/-- A header is its lines, each with its end, and the line that ends it. -/
theorem headerOf_append (es : List (Char × String)) (rest : Bytes) :
    headerOf es ++ rest =
      written (es.map fieldText) ++ (Utf8.encode terminator ++ Line.feed :: rest) := by
  unfold headerOf written
  rw [List.flatMap_map, List.append_assoc, List.append_assoc]
  rfl

/-- What the first line with a key says is what the first field with that key says. -/
theorem firstValue?_map_fieldText (key : Char) (es : List (Char × String)) :
    firstValue? key (es.map fieldText) = es.lookup key := by
  induction es with
  | nil => rfl
  | cons e es ih =>
    have hfirst : firstValue? key [fieldText e] = if key = e.1 then some e.2 else none := by
      unfold firstValue? hasKey fieldText
      by_cases h : key = e.1
      · simp [h]
      · simp [h, Ne.symm h]
    rw [List.map_cons, Keyed.lookup_cons, ← List.singleton_append, firstValue?_append, hfirst, ih]
    split
    · rfl
    · rfl

/-- A value that is found stands in a line with its key. -/
theorem mem_of_firstValue? {key : Char} {lines : List (List Char)} {value : String}
    (h : firstValue? key lines = some value) : key :: value.toList ∈ lines := by
  obtain ⟨line, hfind, rfl⟩ := Option.map_eq_some_iff.1 h
  have hkey : line.head? = some key := beq_iff_eq.1 (List.find?_some (p := hasKey key) hfind)
  obtain ⟨tail, rfl⟩ := List.head?_eq_some_iff.1 hkey
  rw [String.toList_ofList]
  exact List.mem_of_find?_eq_some hfind

/-- A number is read back from its text. -/
theorem number_of_get? {α : Type} {reader : List Char → Option α} {text : α → String}
    (hread : ∀ n, reader (trim (text n).toList) = some n) {fs : CharMap} {key : Char} {n : Option α}
    (h : fs.get? key = n.map text) : number reader fs key = .ok n := by
  unfold number
  rw [h]
  cases n with
  | none => rfl
  | some n =>
    dsimp only [Option.map_some]
    rw [hread]

/-- A number without a sign is read from what is written for it. -/
theorem read_unsignedText (n : UInt64) : readUInt64? (trim (unsignedText n).toList) = some n := by
  rw [unsignedText, String.toList_ofList, (isWord_digits _).trim_eq, readUInt64?_digits]

/-- So is one with a sign. -/
theorem read_signedText (n : Int64) : readInt64? (trim (signedText n).toList) = some n := by
  rw [signedText, String.toList_ofList, (isWord_signed _).trim_eq, readInt64?_signed]

/-- **Fields that give what a manifest holds, and nothing else, say that manifest.** -/
theorem SaidBy.of_entries {fs gs : CharMap} {m : Manifest} (h : SaidBy fs m)
    (hentries : ∀ key, gs.get? key = m.entries.lookup key) : SaidBy gs m := by
  have hknown : ∀ {key : Char} (value : Option String), key ∈ knownKeys →
      m.known.lookup key = some value → gs.get? key = value := by
    intro key value hkey hvalue
    rw [hentries, lookup_entries_eq, hvalue, h.other_get? hkey, Option.or_none]
    rfl
  exact {
    repositoryName := ⟨hknown _ (by decide) rfl, h.repositoryName.2⟩
    rootCatalog := hknown _ (by decide) rfl
    rootHash := hknown _ (by decide) rfl
    rootCatalogSize := number_of_get? read_unsignedText (hknown _ (by decide) rfl)
    certificate := hknown _ (by decide) rfl
    historyDatabase := hknown _ (by decide) rfl
    lastModified := number_of_get? read_signedText (hknown _ (by decide) rfl)
    ttl := number_of_get? read_unsignedText (hknown _ (by decide) rfl)
    revision := number_of_get? read_unsignedText (hknown _ (by decide) rfl)
    garbageCollectable := by
      rw [hknown (if m.garbageCollectable then some "yes" else none) (by decide) rfl]
      cases m.garbageCollectable <;> rfl
    other := by
      apply CharMap.ext_get?
      intro key
      rw [CharMap.get?_filterKeys, hentries, lookup_entries_eq]
      by_cases hkey : key ∈ knownKeys
      · rw [h.other_get? hkey, List.contains_iff_mem.2 hkey]
        rfl
      · have hnone : m.known.lookup key = none :=
          Keyed.lookup_eq_none_of_not_mem (keys_known m ▸ hkey)
        rw [hnone, if_pos (by simp [hkey])]
        rfl }

/-- A line that ends a header, whatever is behind it. -/
theorem startsWithEnd_terminator (rest : Bytes) :
    StartsWithEnd (Utf8.encode terminator ++ Line.feed :: rest) :=
  ⟨0, Line.feed :: rest, rfl, Or.inr rfl⟩

/-- The lines of a header that is written are those that were written. -/
theorem get?_headerOf {es : List (Char × String)} (h : ∀ e ∈ es, IsHeaderLine (fieldText e))
    (rest : Bytes) (key : Char) :
    (fields (header (headerOf es ++ rest))).get? key = es.lookup key := by
  have hlines : ∀ line ∈ es.map fieldText, IsHeaderLine line := List.forall_mem_map.2 h
  rw [headerOf_append, header_written hlines (Or.inr (startsWithEnd_terminator rest)), get?_fields,
    firstValue?_map_fieldText]

/-- What a manifest holds can be written in lines. -/
theorem SaidBy.isHeaderLine {content : Bytes} {m : Manifest} (h : SaidBy (fields (header content)) m)
    {e : Char × String} (he : e ∈ m.entries) : IsHeaderLine (fieldText e) := by
  rcases h.of_mem_entries he with hvalue | ⟨hkey, hword⟩
  · rw [get?_fields] at hvalue
    exact isHeaderLine_of_mem_header (mem_of_firstValue? hvalue)
  · exact isHeaderLine_of_isWord hkey hword

/-- **A manifest is read back from its own fields**, one to a line, in any order, and whatever follows
the line behind them. For no value that was read contains a line end that would cut it, no field
looks like the end of the header, and none comes under a key of two. -/
theorem ofBytes_headerOf {content : Bytes} {m : Manifest} (h : ofBytes content = .ok m) :
    (∀ es, es.Perm m.entries → ∀ rest, ofBytes (headerOf es ++ rest) = .ok m) ∧
      (∀ e ∈ m.entries, '\n' ∉ e.2.toList ∧ e.2.toList.getLast? ≠ some '\r') ∧
      (∀ key ∈ knownKeys, m.other.get? key = none) ∧
      ∀ e ∈ m.entries, fieldText e ≠ terminator := by
  have hsaid : SaidBy (fields (header content)) m := ofFields_eq_ok_iff.1 h
  refine ⟨?_, ?_, ?_, ?_⟩
  · intro es hperm rest
    have hlines : ∀ e ∈ es, IsHeaderLine (fieldText e) := fun e he =>
      hsaid.isHeaderLine (hperm.mem_iff.1 he)
    have hkeys : (es.map Prod.fst).Nodup := (hperm.map Prod.fst).nodup_iff.2 hsaid.nodup_entries
    refine ofFields_eq_ok_iff.2 (hsaid.of_entries fun key => ?_)
    rw [get?_headerOf hlines rest, Keyed.lookup_of_perm hperm hkeys]
  · intro e he
    obtain ⟨hfeed, hreturn, -⟩ := hsaid.isHeaderLine he
    refine ⟨fun hmem => hfeed (List.mem_cons_of_mem _ hmem), fun hlast => hreturn ?_⟩
    rw [fieldText, List.getLast?_cons, hlast]
    rfl
  · intro key hkey
    exact hsaid.other_get? hkey
  · intro e he
    exact (hsaid.isHeaderLine he).2.2

/-- A header in bad shape: not all of it text, keys that are no letters, a value that is empty, numbers
that could be shorter, and a key that comes twice. -/
def worn : Bytes :=
  "-\r\nS007\nGyes\r\r\nT-0\n\rx\nD+5\r".utf8 ++ Line.feed :: 0xff :: "A\r\nNorg\nNcom\n--\r\nsigned".utf8

/-- What it says. -/
def wornManifest : Manifest where
  repositoryName := "org"
  rootCatalog := none
  rootHash := none
  rootCatalogSize := none
  certificate := none
  historyDatabase := none
  lastModified := some 0
  ttl := some 5
  revision := some 7
  garbageCollectable := true
  other := ⟨[('\r', "x"), ('-', ""), ('\uFFFD', "A")], by decide⟩

theorem ofBytes_headerOf_worn :
    ofBytes worn = .ok wornManifest ∧
      ofBytes (headerOf wornManifest.entries.reverse ++ [0xff, 0x0a]) = .ok wornManifest := by
  have hread : ofBytes worn = .ok wornManifest := by decide +kernel
  exact ⟨hread, (ofBytes_headerOf hread).1 _ (List.reverse_perm _) _⟩

end Manifest

end Stratum
