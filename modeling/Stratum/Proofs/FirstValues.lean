import Mathlib.Logic.Relation
import Stratum.Proofs.Numerals
import Stratum.Proofs.Unread

/-!
# First values decide

A manifest is what the first values of its keys make it, and it is refused for what is wrong with
these. Where a key comes in the header, what else is said under it, and how many lines are empty makes
no difference; nor does the place of a fault, for the faults are looked for in an order of their own:
the name first, and then the numbers.

> `Edit.firstValue?_eq`: the changes to a header that leave all first values as they are.
> `ofFields_eq_error_iff`: when a header is refused, and what for.
> `ofBytes_first_values`: both, said of whole files.
-/

namespace Stratum.Manifest

open Text Text.Numeral

/-! ## Headers as they are written -/

/-- A text that is read back from a line: it does not end the line, nor the header. -/
def IsHeaderLine (line : List Char) : Prop :=
  '\n' ∉ line ∧ line.getLast? ≠ some '\r' ∧ line ≠ terminator

instance (line : List Char) : Decidable (IsHeaderLine line) :=
  inferInstanceAs (Decidable ('\n' ∉ line ∧ _ ∧ line ≠ terminator))

/-- Lines with a line feed behind each. -/
def written (lines : List (List Char)) : Bytes :=
  lines.flatMap fun line => Utf8.encode line ++ [Line.feed]

/-- Lines that are written end. -/
theorem endsLine_written (lines : List (List Char)) : Line.EndsLine (written lines) := by
  rcases List.eq_nil_or_concat lines with rfl | ⟨lines, line, rfl⟩
  · exact Or.inl rfl
  · refine Or.inr ?_
    simp [written]

/-- A line of a header is read as it was written. -/
theorem lineText_encode {line : List Char} (h : IsHeaderLine line) :
    lineText ⟨Utf8.encode line, true⟩ = line := by
  have hfeed : Line.Ends [Line.feed] := fun b hb => Or.inr (List.mem_singleton.1 hb)
  rw [lineText_of_ends rfl hfeed, Utf8.decodeLossy_of_decode? (Utf8.decode?_encode line)]
  rcases List.eq_nil_or_concat line with rfl | ⟨line, c, rfl⟩
  · rfl
  · have hplain : isLineEnd c = false := by
      obtain ⟨hfeed, hreturn, -⟩ := h
      have hc : c ≠ '\n' := fun heq => hfeed (by simp [heq])
      have hc' : c ≠ '\r' := fun heq => hreturn (by simp [heq])
      simp [isLineEnd, hc, hc']
    rw [List.concat_eq_append, dropEndWhile_append_cons hplain]
    rfl

/-- Any such lines are those of a header, whether there is a line that ends it or nothing more. -/
theorem header_written {lines : List (List Char)} (h : ∀ line ∈ lines, IsHeaderLine line)
    {rest : Bytes} (hrest : rest = [] ∨ StartsWithEnd rest) :
    header (written lines ++ rest) = lines := by
  have hlines : (Line.ofBytes (written lines)).map lineText = lines := by
    induction lines with
    | nil => rfl
    | cons line lines ih =>
      have hline := h line List.mem_cons_self
      have hsplit : written (line :: lines) =
          Utf8.encode line ++ Line.feed :: written lines := by
        simp [written]
      rw [hsplit, Line.ofBytes_of_feed (Line.ne_feed_of_mem_encode hline.1), List.map_cons, lineText_encode hline,
        ih fun l hl => h l (List.mem_cons_of_mem line hl)]
  have hall : lines.takeWhile (· != terminator) = lines := by
    rw [List.takeWhile_eq_self_iff]
    intro line hline
    exact bne_iff_ne.2 (h line hline).2.2
  rcases hrest with rfl | hrest
  · unfold header
    rw [List.append_nil, hlines, hall]
  · rw [header_append_of_end (endsLine_written lines) hrest, hlines, hall]

/-! ## Changes to a header -/

/-- Two lines that do not start with the same character. -/
def Apart (l l' : List Char) : Prop := ∀ key ∈ l.head?, key ∉ l'.head?

instance (l l' : List Char) : Decidable (Apart l l') :=
  Option.decidableForallMem l.head?

/-- One change to the lines of a header: lines of which no two start with the same character change
places, an empty line comes in, or a further line whose key has occurred. -/
inductive Edit : List (List Char) → List (List Char) → Prop
  | permuted (before after : List (List Char)) {block block' : List (List Char)}
    (hapart : block.Pairwise Apart) (hperm : block.Perm block') :
    Edit (before ++ (block ++ after)) (before ++ (block' ++ after))
  | emptyLine (before after : List (List Char)) : Edit (before ++ after) (before ++ [] :: after)
  | repeated (before after : List (List Char)) {key : Char} (value : List Char)
    (hkey : ∃ line ∈ before, hasKey key line = true) :
    Edit (before ++ after) (before ++ (key :: value) :: after)

/-- Where no two lines have the same key, it does not matter which comes first. -/
theorem find?_of_perm {block block' : List (List Char)} (hperm : block.Perm block')
    (hapart : block.Pairwise Apart) (key : Char) :
    block.find? (hasKey key) = block'.find? (hasKey key) := by
  induction hperm with
  | nil => rfl
  | cons line _ ih => rw [List.find?_cons, List.find?_cons, ih (List.pairwise_cons.1 hapart).2]
  | swap l l' _ =>
    have hne : Apart l' l := (List.pairwise_cons.1 hapart).1 l List.mem_cons_self
    rw [List.find?_cons, List.find?_cons, List.find?_cons, List.find?_cons]
    cases hl : hasKey key l with
    | false => rfl
    | true =>
      cases hl' : hasKey key l' with
      | false => rfl
      | true => exact absurd (beq_iff_eq.1 hl) (hne key (beq_iff_eq.1 hl'))
  | trans hperm _ ih ih' =>
    have hsymm : ∀ {l l'}, Apart l l' → Apart l' l := fun h key hkey' hkey => h key hkey hkey'
    rw [ih hapart, ih' (hperm.pairwise hapart hsymm)]

/-- No such change touches a first value. -/
theorem Edit.firstValue?_eq {lines lines' : List (List Char)} (h : Edit lines lines')
    (key : Char) : firstValue? key lines = firstValue? key lines' := by
  cases h with
  | permuted before after hapart hperm =>
    have hblock : firstValue? key _ = firstValue? key _ :=
      congrArg (Option.map _) (find?_of_perm hperm hapart key)
    rw [firstValue?_append, firstValue?_append, hblock, ← firstValue?_append, ← firstValue?_append]
  | emptyLine before after =>
    have hempty : firstValue? key ([] :: after) = firstValue? key after := rfl
    rw [firstValue?_append, firstValue?_append, hempty]
  | @repeated before after key' value hkey =>
    rw [firstValue?_append, firstValue?_append]
    by_cases hsame : key' = key
    · subst hsame
      have hsome : (firstValue? key' before).isSome = true := by
        unfold firstValue?
        rw [Option.isSome_map, List.find?_isSome]
        exact hkey
      obtain ⟨v, hv⟩ := Option.isSome_iff_exists.1 hsome
      rw [hv]
      rfl
    · have hother : hasKey key (key' :: value) = false := by
        unfold hasKey
        rw [beq_eq_false_iff_ne]
        exact fun heq => hsame (Option.some.inj heq)
      have hskip : firstValue? key ((key' :: value) :: after) = firstValue? key after := by
        unfold firstValue?
        rw [List.find?_cons, hother]
      rw [hskip]

/-- So no number of them does. -/
theorem firstValue?_of_edits {lines lines' : List (List Char)}
    (h : Relation.ReflTransGen Edit lines lines') (key : Char) :
    firstValue? key lines = firstValue? key lines' := by
  induction h with
  | refl => rfl
  | tail _ hedit ih => rw [ih, hedit.firstValue?_eq key]

/-- Equal first values make equal manifests. -/
theorem ofBytes_of_firstValues {a b : Bytes}
    (h : ∀ key, firstValue? key (header a) = firstValue? key (header b)) :
    ofBytes a = ofBytes b := by
  have hfields : fields (header a) = fields (header b) := by
    apply CharMap.ext_get?
    intro key
    rw [get?_fields, get?_fields, h key]
  unfold ofBytes
  rw [hfields]

/-! ## What a header is refused for -/

/-- A value that is a number under a numeric key, blanks around it aside: one of 64 bits, and only under
`T` one that may be negative. -/
def IsNumeral (key : Char) (value : String) : Prop :=
  if key = 'T' then ∃ z, Signed (trim value.toList) z ∧ -2 ^ 63 ≤ z ∧ z < 2 ^ 63
  else ∃ n, Unsigned (trim value.toList) n ∧ n < 2 ^ 64

/-- The numeric keys, in the order in which their values are looked at. -/
def numericKeys : List Char := ['B', 'T', 'D', 'S']

/-- Of some keys, the first whose first value is no number is what a header is refused for. -/
inductive Refused (lines : List (List Char)) : List Char → ManifestError → Prop
  | here {key : Char} {keys : List Char} {value : String}
    (hvalue : firstValue? key lines = some value) (hbad : ¬IsNumeral key value) :
    Refused lines (key :: keys) (.notANumber key value)
  | later {key : Char} {keys : List Char} {e : ManifestError}
    (hgood : ∀ value, firstValue? key lines = some value → IsNumeral key value)
    (h : Refused lines keys e) : Refused lines (key :: keys) e

/-- What is wrong with a header: it gives no name, or an empty one first; or it does give a name, and
one of its numbers is none. -/
inductive Faulty (lines : List (List Char)) : ManifestError → Prop
  | noName (h : ∀ name, firstValue? 'N' lines = some name → name = "") : Faulty lines .noName
  | refused {e : ManifestError} (hname : ∃ name, firstValue? 'N' lines = some name ∧ name ≠ "")
    (h : Refused lines numericKeys e) : Faulty lines e

/-- A number without a sign is read exactly from a numeral. -/
theorem isSome_unsigned_iff {key : Char} (hkey : key ≠ 'T') (value : String) :
    (readUInt64? (trim value.toList)).isSome = true ↔ IsNumeral key value := by
  unfold IsNumeral
  rw [if_neg hkey]
  exact isSome_readUInt64?_iff

/-- So is the time, which may have a sign. -/
theorem isSome_signed_iff (value : String) :
    (readInt64? (trim value.toList)).isSome = true ↔ IsNumeral 'T' value :=
  isSome_readInt64?_iff

section

variable {α : Type} {reader : List Char → Option α} {key : Char} {lines : List (List Char)}
  {e : ManifestError}

/-- A field is refused exactly if its first value is no numeral, and by this value. -/
theorem number_eq_error_iff
    (hreader : ∀ value : String,
      (reader (trim value.toList)).isSome = true ↔ IsNumeral key value) :
    number reader (fields lines) key = .error e ↔ ∃ value, firstValue? key lines = some value ∧
      ¬IsNumeral key value ∧ e = .notANumber key value := by
  unfold number
  rw [get?_fields]
  cases firstValue? key lines with
  | none => exact iff_of_false nofun nofun
  | some value =>
    simp only [Option.some.injEq, exists_eq_left', ← hreader]
    cases reader (trim value.toList) with
    | none => simp [eq_comm]
    | some n => simp

/-- It is accepted exactly if it is a numeral or missing. -/
theorem exists_number_eq_ok_iff
    (hreader : ∀ value : String,
      (reader (trim value.toList)).isSome = true ↔ IsNumeral key value) :
    (∃ n, number reader (fields lines) key = .ok n) ↔
      ∀ value, firstValue? key lines = some value → IsNumeral key value := by
  unfold number
  rw [get?_fields]
  cases firstValue? key lines with
  | none => exact iff_of_true ⟨none, rfl⟩ nofun
  | some value =>
    simp only [Option.some.injEq, forall_eq', ← hreader]
    cases reader (trim value.toList) with
    | none => simp
    | some n => simp

/-- One number after the other: a number that is none is the fault, and else the fault is behind
it. -/
theorem number_bind_eq_error_iff {β : Type} {keys : List Char}
    {f : Option α → Except ManifestError β}
    (hreader : ∀ value : String,
      (reader (trim value.toList)).isSome = true ↔ IsNumeral key value)
    (hrest : ∀ n, f n = .error e ↔ Refused lines keys e) :
    (number reader (fields lines) key >>= f) = .error e ↔ Refused lines (key :: keys) e := by
  rw [Outcome.bind_eq_error_iff, number_eq_error_iff hreader]
  constructor
  · intro h
    rcases h with ⟨value, hvalue, hbad, rfl⟩ | ⟨n, hn, h⟩
    · exact .here hvalue hbad
    · exact .later ((exists_number_eq_ok_iff hreader).1 ⟨n, hn⟩) ((hrest n).1 h)
  · intro h
    cases h with
    | here hvalue hbad => exact Or.inl ⟨_, hvalue, hbad, rfl⟩
    | later hgood h =>
      obtain ⟨n, hn⟩ := (exists_number_eq_ok_iff hreader).2 hgood
      exact Or.inr ⟨n, hn, (hrest n).2 h⟩

end

theorem not_refused_nil {lines : List (List Char)} {e : ManifestError} : ¬Refused lines [] e :=
  nofun

/-- A header is refused for its first fault, in the order of the fields and not of the lines. -/
theorem ofFields_eq_error_iff {lines : List (List Char)} {e : ManifestError} :
    ofFields (fields lines) = .error e ↔ Faulty lines e := by
  unfold ofFields
  split
  next hnone =>
    have hempty : ∀ name, firstValue? 'N' lines = some name → name = "" := by
      intro name hname
      rw [get?_fields, hname, Option.filter_eq_none_iff] at hnone
      exact not_not.1 fun hne => hnone name rfl (bne_iff_ne.2 hne)
    constructor
    · intro h
      cases h
      exact .noName hempty
    · intro h
      cases h with
      | noName => rfl
      | refused hname _ =>
        obtain ⟨name, hname, hne⟩ := hname
        exact absurd (hempty name hname) hne
  next name hsome =>
    obtain ⟨hname, hne⟩ := Option.filter_eq_some_iff.1 hsome
    rw [get?_fields] at hname
    have hsize := isSome_unsigned_iff (show 'B' ≠ 'T' by decide)
    have httl := isSome_unsigned_iff (show 'D' ≠ 'T' by decide)
    have hrevision := isSome_unsigned_iff (show 'S' ≠ 'T' by decide)
    refine Iff.trans (b := Refused lines numericKeys e) ?_ ?_
    · refine number_bind_eq_error_iff hsize fun size => ?_
      refine number_bind_eq_error_iff isSome_signed_iff fun modified => ?_
      refine number_bind_eq_error_iff httl fun ttl => ?_
      refine number_bind_eq_error_iff hrevision fun revision => ?_
      exact iff_of_false (fun h => nomatch (show Except.ok _ = Except.error e from h)) not_refused_nil
    constructor
    · intro h
      exact .refused ⟨name, hname, bne_iff_ne.1 hne⟩ h
    · intro h
      cases h with
      | noName hempty => exact absurd (hempty name hname) (bne_iff_ne.1 hne)
      | refused _ h => exact h

/-- **The first value of each key decides, and nothing else.** Whatever lines stand before the line that
ends a header, what is made of them is the same manifest, or the same refusal, as for any other header
with these first values. So lines with different keys may change places, empty lines may come in, and
further lines whose keys have occurred, any number of times. And a header is refused for its name
before its numbers, and for its numbers in the order of their keys, wherever they stand. -/
theorem ofBytes_first_values :
    (∀ lines rest, (∀ line ∈ lines, IsHeaderLine line) → (rest = [] ∨ StartsWithEnd rest) →
      header (written lines ++ rest) = lines) ∧
    (∀ a b, (∀ key, firstValue? key (header a) = firstValue? key (header b)) →
      ofBytes a = ofBytes b) ∧
    (∀ a b, Relation.ReflTransGen Edit (header a) (header b) → ofBytes a = ofBytes b) ∧
    ∀ content e, ofBytes content = .error e ↔ Faulty (header content) e := by
  refine ⟨?_, ?_, ?_, ?_⟩
  · intro lines rest hlines hrest
    exact header_written hlines hrest
  · intro a b h
    exact ofBytes_of_firstValues h
  · intro a b h
    exact ofBytes_of_firstValues (firstValue?_of_edits h)
  · intro content e
    exact ofFields_eq_error_iff

/-- A header with two faults, and what it is refused for, also after some changes. -/
theorem ofBytes_first_values_faults :
    ofBytes "S-2\nNx.org\nBten\n".utf8 = .error (.notANumber 'B' "ten") ∧
      ofBytes "\nBten\nNx.org\nB10\nS-2\n--\n0123".utf8 = .error (.notANumber 'B' "ten") := by
  obtain ⟨hheader, -, hedits, hfaults⟩ := ofBytes_first_values
  let revision : List Char := "S-2".toList
  let name : List Char := "Nx.org".toList
  let size : List Char := "Bten".toList
  have hfirst : header "S-2\nNx.org\nBten\n".utf8 = [revision, name, size] := by
    have htext : "S-2\nNx.org\nBten\n".utf8 = written [revision, name, size] ++ [] := by
      decide +kernel
    rw [htext]
    exact hheader _ [] (by decide) (Or.inl rfl)
  have hchanged : header "\nBten\nNx.org\nB10\nS-2\n--\n0123".utf8 =
      [[], size, name, "B10".toList, revision] := by
    have htext : "\nBten\nNx.org\nB10\nS-2\n--\n0123".utf8 =
        written [[], size, name, "B10".toList, revision] ++ "--\n0123".utf8 := by
      decide +kernel
    have hend : StartsWithEnd "--\n0123".utf8 := ⟨0, "\n0123".utf8, by decide, Or.inr (by decide)⟩
    rw [htext]
    exact hheader _ _ (by decide) (Or.inr hend)
  have hchanges : Relation.ReflTransGen Edit [revision, name, size]
      [[], size, name, "B10".toList, revision] := by
    have hperm : Edit [revision, name, size] [size, name, revision] :=
      @Edit.permuted [] [] [revision, name, size] [size, name, revision] (by decide) (by decide)
    have hempty : Edit [size, name, revision] [[], size, name, revision] := .emptyLine [] _
    have hrepeated : Edit [[], size, name, revision] [[], size, name, "B10".toList, revision] :=
      .repeated [[], size, name] [revision] "10".toList ⟨size, by decide, by decide⟩
    exact ((Relation.ReflTransGen.single hperm).tail hempty).tail hrepeated
  have hbad : ¬IsNumeral 'B' "ten" := by
    intro hgood
    have hread := (isSome_unsigned_iff (by decide) "ten").2 hgood
    exact absurd hread (by decide)
  have hrefused : ofBytes "S-2\nNx.org\nBten\n".utf8 = .error (.notANumber 'B' "ten") := by
    rw [hfaults, hfirst]
    exact .refused ⟨"x.org", by decide, by decide⟩ (.here (by decide) hbad)
  refine ⟨hrefused, ?_⟩
  rw [← hedits _ _ (hfirst ▸ hchanged ▸ hchanges)]
  exact hrefused

end Stratum.Manifest
