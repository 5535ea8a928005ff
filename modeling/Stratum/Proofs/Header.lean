import Stratum.Manifest
import Stratum.Proofs.Lines
import Stratum.Proofs.Outcome

/-!
# The fields of a header

The fields of a header are gathered line by line into one map. What the map holds is said here of
the lines themselves: under each key stands what the first line with that key says, whatever comes
behind it.

> `get?_fields`: a look-up in the gathered fields is a look-up among the lines.
> `ofFields_eq_ok_iff`: what a manifest holds, said field by field.
-/

namespace Stratum.Manifest

open Text

/-- What ends a line does not belong to its text. -/
theorem lineText_of_ends {l : Line} {s ends : Bytes} (hl : l.bytes = s ++ ends)
    (h : Line.Ends ends) : lineText l = dropEndWhile isLineEnd (Utf8.decodeLossy s) := by
  obtain ⟨t, hends, -, hdecode⟩ := Line.decode?_append_ends h s
  unfold lineText
  rw [hl, hdecode]
  apply dropEndWhile_append_of_forall
  intro c hc
  rcases hends c hc with rfl | rfl
  · rfl
  · rfl

/-- Whether a line gives the field with a key. -/
def hasKey (key : Char) (line : List Char) : Bool := line.head? == some key

/-- What the first line with a key says. -/
def firstValue? (key : Char) (lines : List (List Char)) : Option String :=
  (lines.find? (hasKey key)).map fun line => String.ofList line.tail

/-- The first line with a key is among the lines in front, if one of these has the key. -/
theorem firstValue?_append (key : Char) (lines lines' : List (List Char)) :
    firstValue? key (lines ++ lines') = (firstValue? key lines).or (firstValue? key lines') := by
  unfold firstValue?
  rw [List.find?_append, Option.map_or]

/-- A line is looked at only if the fields before it lack its key. -/
theorem get?_addLine (m : CharMap) (line : List Char) (key : Char) :
    (addLine m line).get? key = (m.get? key).or (firstValue? key [line]) := by
  unfold firstValue?
  cases line with
  | nil =>
    show m.get? key = (m.get? key).or none
    rw [Option.or_none]
  | cons c value =>
    show (m.insertNew c (String.ofList value)).get? key = _
    rw [CharMap.get?_insertNew, List.find?_cons]
    by_cases h : key = c
    · subst h
      have hkey : hasKey key (key :: value) = true := beq_self_eq_true _
      rw [if_pos rfl, hkey]
      cases m.get? key <;> rfl
    · have hkey : hasKey key (c :: value) = false := by
        unfold hasKey
        rw [beq_eq_false_iff_ne]
        intro heq
        exact h (Option.some.inj heq).symm
      rw [if_neg h, hkey]
      exact Option.or_none.symm

/-- So further lines fill up what the lines before them have left open. -/
theorem get?_foldl_addLine (m : CharMap) (lines : List (List Char)) (key : Char) :
    (lines.foldl addLine m).get? key = (m.get? key).or (firstValue? key lines) := by
  induction lines generalizing m with
  | nil => exact Option.or_none.symm
  | cons line lines ih =>
    have hfirst : firstValue? key (line :: lines) =
        (firstValue? key [line]).or (firstValue? key lines) :=
      firstValue?_append key [line] lines
    rw [List.foldl_cons, ih, get?_addLine, Option.or_assoc, hfirst]

/-- **Under each key stands what the first line with that key says.** -/
theorem get?_fields (lines : List (List Char)) (key : Char) :
    (fields lines).get? key = firstValue? key lines := by
  unfold fields
  rw [get?_foldl_addLine, CharMap.get?_empty, Option.none_or]

/-- A manifest that holds what these fields say. -/
structure SaidBy (fields : CharMap) (m : Manifest) : Prop where
  repositoryName : fields.get? 'N' = some m.repositoryName ∧ m.repositoryName ≠ ""
  rootCatalog : fields.get? 'C' = m.rootCatalog
  rootHash : fields.get? 'R' = m.rootHash
  rootCatalogSize : number Numeral.readUInt64? fields 'B' = .ok m.rootCatalogSize
  certificate : fields.get? 'X' = m.certificate
  historyDatabase : fields.get? 'H' = m.historyDatabase
  lastModified : number Numeral.readInt64? fields 'T' = .ok m.lastModified
  ttl : number Numeral.readUInt64? fields 'D' = .ok m.ttl
  revision : number Numeral.readUInt64? fields 'S' = .ok m.revision
  garbageCollectable : (fields.get? 'G' == some "yes") = m.garbageCollectable
  other : (fields.filterKeys fun k => !knownKeys.contains k) = m.other

/-- **A manifest is read from fields exactly if it holds what they say.** -/
theorem ofFields_eq_ok_iff {fields : CharMap} {m : Manifest} :
    ofFields fields = .ok m ↔ SaidBy fields m := by
  unfold ofFields
  constructor
  · intro h
    split at h
    next => cases h
    next name hname =>
      obtain ⟨hget, hne⟩ := Option.filter_eq_some_iff.1 hname
      obtain ⟨size, hsize, h⟩ := Outcome.bind_eq_ok_iff.1 h
      obtain ⟨modified, hmodified, h⟩ := Outcome.bind_eq_ok_iff.1 h
      obtain ⟨ttl, httl, h⟩ := Outcome.bind_eq_ok_iff.1 h
      obtain ⟨revision, hrevision, h⟩ := Outcome.bind_eq_ok_iff.1 h
      cases h
      exact {
        repositoryName := ⟨hget, bne_iff_ne.1 hne⟩
        rootCatalog := rfl
        rootHash := rfl
        rootCatalogSize := hsize
        certificate := rfl
        historyDatabase := rfl
        lastModified := hmodified
        ttl := httl
        revision := hrevision
        garbageCollectable := rfl
        other := rfl }
  · intro h
    obtain ⟨hget, hne⟩ := h.repositoryName
    have hname : (fields.get? 'N').filter (· != "") = some m.repositoryName :=
      Option.filter_eq_some_iff.2 ⟨hget, bne_iff_ne.2 hne⟩
    rw [hname]
    dsimp only
    rw [h.rootCatalogSize, h.lastModified, h.ttl, h.revision, h.rootCatalog, h.rootHash,
      h.certificate, h.historyDatabase, h.garbageCollectable, h.other]
    rfl

/-- The name in a manifest is the one that its header gives first, and it is not empty. -/
theorem firstValue?_of_ofBytes {content : Bytes} {m : Manifest} (h : ofBytes content = .ok m) :
    firstValue? 'N' (header content) = some m.repositoryName ∧ m.repositoryName ≠ "" := by
  rw [← get?_fields]
  exact (ofFields_eq_ok_iff.1 h).repositoryName

end Stratum.Manifest
