import Mathlib.Data.List.Nodup
import Mathlib.Data.List.Perm.Basic
import Stratum.Json.Stored
import Stratum.Proofs.Entries
import Stratum.Proofs.JsonText

/-!
# Records in any order

A record that is written is read back, also when somebody has put its members into another order in
between, and those of the objects inside it. It is read by its slots, and each slot by the reader of
its field, so there is one lemma for all records and one for each kind of field: texts, numbers,
flags, fields that may be missing, and maps from single characters.

> `slots?_of_reorders`: the slots of a record, whatever the order of its members.
> `Stores`: what is read from a value, in whatever order its members stand.
> `decode?_of_stores`: what is read from a text is what its value stores.
-/

namespace Stratum

open Text

namespace Json

/-! ## Members in another order -/

/-- `Reorders w v`: the value `w` is `v` with the members of its objects in another order, and those
of the objects inside them. In `ps` every key has the new value and the old one. -/
inductive Reorders : Json → Json → Prop
  | same (v : Json) : Reorders v v
  | object {ps : List (List Piece × Json × Json)} {ms : List (List Piece × Json)}
    (inside : ∀ p ∈ ps, Reorders p.2.1 p.2.2) (order : ms.Perm (ps.map fun p => (p.1, p.2.1))) :
    Reorders (.object ms) (.object (ps.map fun p => (p.1, p.2.2)))

/-- Another order of proper values is proper. -/
theorem Reorders.proper {v w : Json} (h : w.Reorders v) (hv : v.Proper) : w.Proper := by
  induction h with
  | same => exact hv
  | @object ps ms _ order ih =>
    have hold := properMembers_iff.1 hv
    refine properMembers_iff.2 fun m hm => ?_
    obtain ⟨p, hp, rfl⟩ := List.mem_map.1 (order.subset hm)
    obtain ⟨hkey, hvalue⟩ := hold (p.1, p.2.2) (List.mem_map_of_mem hp)
    exact ⟨hkey, ih p hp hvalue⟩

/-- The members of one object may stand in any order. -/
theorem reorders_of_perm {ns ms : List (String × Json)} (h : ns.Perm ms) :
    (ofMembers ns).Reorders (ofMembers ms) := by
  have hsame : ∀ p ∈ ms.map fun m => (piecesOf m.1, m.2, m.2), Reorders p.2.1 p.2.2 := by
    intro p hp
    obtain ⟨m, -, rfl⟩ := List.mem_map.1 hp
    exact .same m.2
  have hold : ofMembers ms =
      .object ((ms.map fun m => (piecesOf m.1, m.2, m.2)).map fun p => (p.1, p.2.2)) := by
    rw [List.map_map]
    rfl
  have horder : (ns.map fun m => (piecesOf m.1, m.2)).Perm
      ((ms.map fun m => (piecesOf m.1, m.2, m.2)).map fun p => (p.1, p.2.1)) := by
    rw [List.map_map]
    exact h.map _
  rw [hold]
  exact .object hsame horder

/-- What is no object has no order. -/
theorem Reorders.eq_of_not_object {v w : Json} (h : w.Reorders v) (hv : ∀ ms, v ≠ .object ms) :
    w = v := by
  cases h with
  | same => rfl
  | object => exact absurd rfl (hv _)

/-- The members `ps` in the old order, with the new values and the old ones under their names. -/
theorem exists_names {ps : List (List Piece × Json × Json)} {ms : List (String × Json)}
    (h : ps.map (fun p => (p.1, p.2.2)) = ms.map fun m => (piecesOf m.1, m.2)) :
    ∃ qs : List (String × Json × Json), ps = qs.map (fun q => (piecesOf q.1, q.2)) ∧
      ms = qs.map fun q => (q.1, q.2.2) := by
  induction ms generalizing ps with
  | nil =>
    obtain rfl := List.map_eq_nil_iff.1 h
    exact ⟨[], rfl, rfl⟩
  | cons m ms ih =>
    cases ps with
    | nil => cases h
    | cons p ps =>
      obtain ⟨hfirst, hrest⟩ := List.cons.inj h
      obtain ⟨hkey, hvalue⟩ := Prod.mk.inj hfirst
      obtain ⟨qs, rfl, rfl⟩ := ih hrest
      refine ⟨(m.1, p.2.1, m.2) :: qs, ?_, rfl⟩
      rw [List.map_cons, ← hkey, ← hvalue]

/-- What is a permutation of images is the images of a permutation. -/
theorem exists_map_of_perm {α β : Type} {f : α → β} {bs : List β} {as : List α}
    (h : bs.Perm (as.map f)) : ∃ cs : List α, bs = cs.map f ∧ cs.Perm as := by
  have hall : List.Forall₂ (fun b a => b = f a) (as.map f) as :=
    List.forall₂_map_left_iff.2 (List.forall₂_same.2 fun _ _ => rfl)
  obtain ⟨cs, hmap, hperm⟩ := List.perm_comp_forall₂ h hall
  refine ⟨cs, ?_, hperm⟩
  rw [← List.forall₂_eq_eq_eq, List.forall₂_map_right_iff]
  exact hmap

/-- A record in another order is a record again. -/
theorem Reorders.exists_ofMembers {w : Json} {ms : List (String × Json)}
    (h : w.Reorders (ofMembers ms)) :
    ∃ (ns : List (String × Json)) (qs : List (String × Json × Json)), w = ofMembers ns ∧
      ns.Perm (qs.map fun q => (q.1, q.2.1)) ∧ ms = qs.map (fun q => (q.1, q.2.2)) ∧
      ∀ q ∈ qs, q.2.1.Reorders q.2.2 := by
  generalize hv : ofMembers ms = v at h
  cases h with
  | same =>
    obtain rfl := hv
    refine ⟨ms, ms.map fun m => (m.1, m.2, m.2), rfl, ?_, ?_, ?_⟩
    · rw [List.map_map]
      exact List.Perm.of_eq (List.map_id ms).symm
    · rw [List.map_map]
      exact (List.map_id ms).symm
    · intro q hq
      obtain ⟨m, -, rfl⟩ := List.mem_map.1 hq
      exact .same m.2
  | @object ps os inside order =>
    obtain ⟨qs, rfl, hms⟩ := exists_names (Json.object.inj hv).symm
    rw [List.map_map] at order
    have hnamed : os.Perm ((qs.map fun q => (q.1, q.2.1)).map fun m => (piecesOf m.1, m.2)) := by
      rw [List.map_map]
      exact order
    obtain ⟨ns, rfl, hperm⟩ := exists_map_of_perm hnamed
    exact ⟨ns, qs, rfl, hperm, hms, fun q hq => inside _ (List.mem_map_of_mem hq)⟩


/-- If no object stands in it, nothing else has changed. -/
theorem Reorders.exists_perm {w : Json} {ms : List (String × Json)} (h : w.Reorders (ofMembers ms))
    (hflat : ∀ m ∈ ms, ∀ os, m.2 ≠ .object os) : ∃ ns, w = ofMembers ns ∧ ns.Perm ms := by
  obtain ⟨ns, qs, rfl, hperm, rfl, hinside⟩ := h.exists_ofMembers
  have hsame : (qs.map fun q => (q.1, q.2.1)) = qs.map fun q => (q.1, q.2.2) := by
    refine List.map_congr_left fun q hq => ?_
    rw [(hinside q hq).eq_of_not_object (hflat _ (List.mem_map_of_mem hq))]
  rw [hsame] at hperm
  exact ⟨ns, rfl, hperm⟩

/-! ## Slots -/

/-- The names of the members of a record that has been written and read are its own. -/
theorem named?_settled (ms : List (String × Json)) :
    named? (settledMembers (ms.map fun m => (piecesOf m.1, m.2))) =
      some (ms.map fun m => (m.1, m.2.settled)) := by
  unfold named?
  induction ms with
  | nil => rfl
  | cons m ms ih =>
    rw [List.map_cons, settledMembers, List.mapM_cons, ih]
    dsimp only
    rw [stringText?_settled, stringText?_piecesOf]
    rfl

/-- Where no name occurs twice, none is repeated. -/
theorem isRepeated_eq_false {ms : List (String × Json)} (h : (ms.map Prod.fst).Nodup)
    (key : String) : isRepeated ms key = false := by
  have hcount := List.nodup_iff_count_le_one.1 h key
  unfold List.count at hcount
  rw [List.countP_map, List.countP_eq_length_filter] at hcount
  exact decide_eq_false (Nat.not_lt.2 hcount)

/-- In an object without repetitions a slot holds what is found under its name. -/
theorem slots?_object {os : List (List Piece × Json)} {ms : List (String × Json)}
    (hnamed : named? os = some ms) (h : (ms.map Prod.fst).Nodup) (names : List String)
    (short : Bool) : slots? names short (object os) = some (names.map fun n => ms.lookup n) := by
  have hany : names.any (isRepeated ms) = false := by
    rw [List.any_eq_false]
    intro n _
    rw [isRepeated_eq_false h n]
    exact Bool.false_ne_true
  rw [slots?, hnamed]
  simp only [Option.bind_eq_bind, Option.bind_some, hany, Bool.false_eq_true, if_false]

/-- The same of a record that has been written and read. -/
theorem slots?_ofMembers {ms : List (String × Json)} (h : (ms.map Prod.fst).Nodup)
    (names : List String) (short : Bool) :
    slots? names short (ofMembers ms).settled =
      some (names.map fun n => (ms.lookup n).map settled) := by
  have hkeys : ((ms.map fun m => (m.1, m.2.settled)).map Prod.fst).Nodup := by
    rw [List.map_map]
    exact h
  refine (slots?_object (named?_settled ms) hkeys names short).trans ?_
  refine congrArg some (List.map_congr_left fun n _ => ?_)
  exact Keyed.lookup_map (fun _ v => v.settled) n ms

/-- Looking up the names one after another gives the values in their order. -/
theorem map_lookup_keys {ms : List (String × Json)} (h : (ms.map Prod.fst).Nodup) :
    ((ms.map Prod.fst).map fun n => ms.lookup n) = ms.map fun m => some m.2 := by
  rw [List.map_map]
  exact List.map_congr_left fun m hm => Keyed.lookup_of_mem h hm

/-- **The slots of a record** hold its values one by one, whatever the order of its members. -/
theorem slots?_of_reorders {names : List String} {vs : List Json} {w : Json} (h : names.Nodup)
    (hlength : names.length = vs.length) (hw : w.Reorders (ofMembers (names.zip vs)))
    (short : Bool) :
    ∃ us, List.Forall₂ Reorders us vs ∧
      slots? names short w.settled = some (us.map fun u => some u.settled) := by
  obtain ⟨ns, qs, rfl, hperm, hzip, hinside⟩ := hw.exists_ofMembers
  have hnames : names = qs.map Prod.fst := by
    rw [← List.map_fst_zip (Nat.le_of_eq hlength), hzip, List.map_map]
    rfl
  have hvalues : vs = qs.map fun q => q.2.2 := by
    rw [← List.map_snd_zip (Nat.le_of_eq hlength.symm), hzip, List.map_map]
    rfl
  have hkeys : ((qs.map fun q => (q.1, q.2.1)).map Prod.fst) = names := by
    rw [hnames, List.map_map]
    rfl
  have hnodup : (ns.map Prod.fst).Nodup := by
    rw [(hperm.map Prod.fst).nodup_iff, hkeys]
    exact h
  refine ⟨qs.map fun q => q.2.1, ?_, ?_⟩
  · rw [hvalues, List.forall₂_map_left_iff, List.forall₂_map_right_iff, List.forall₂_same]
    exact hinside
  · have hslots : (names.map fun n => ns.lookup n) = qs.map fun q => some q.2.1 := by
      rw [List.map_congr_left fun n _ => Keyed.lookup_of_perm hperm hnodup n, ← hkeys,
        map_lookup_keys (hkeys ▸ h), List.map_map]
      rfl
    have hsettled := congrArg (List.map (Option.map settled)) hslots
    rw [List.map_map, List.map_map] at hsettled
    rw [slots?_ofMembers hnodup, List.map_map]
    exact congrArg some hsettled


/-! ## What a value stores -/

/-- `v` stores `a` for a reader: that is what is read from it when it has been written and read, in
whatever order. -/
def Stores {α : Type} (reader : Json → Option α) (v : Json) (a : α) : Prop :=
  ∀ w : Json, w.Reorders v → reader w.settled = some a

section

variable {α : Type} {reader : Json → Option α} {v w : Json} {a : α}

/-- **What is read from a text** is what its value stores, whatever the order of its members. -/
theorem decode?_of_stores (h : Stores reader v a) (hv : v.Proper) (hw : w.Reorders v) :
    decode? reader w.write = some a := by
  unfold decode?
  rw [ofBytes?_write (hw.proper hv), Option.bind_some]
  exact h w hw

/-- What is no object has one order, so there is only one value to read. -/
theorem stores_of_not_object (hv : ∀ ms, v ≠ .object ms) (h : reader v.settled = some a) :
    Stores reader v a := by
  intro w hw
  rw [hw.eq_of_not_object hv]
  exact h

/-- A text stores itself. -/
theorem stores_text (s : String) : Stores text? (ofText s) s := by
  refine stores_of_not_object nofun ?_
  rw [ofText, settled, text?, stringText?_settled, stringText?_piecesOf]

theorem stores_bool (b : Bool) : Stores bool? (.bool b) b := stores_of_not_object nofun rfl

/-- So does a number of 64 bits, up to the last one. -/
theorem stores_uint64 (n : UInt64) : Stores uint64? (Manifest.ofUInt64 n) n := by
  refine stores_of_not_object nofun ?_
  have hread : (ofInteger n.toNat).integer? = some (n.toNat : Int) := integer?_ofInteger n.toNat
  have hsize : 0 ≤ (n.toNat : Int) ∧ (n.toNat : Int).toNat < UInt64.size :=
    ⟨Int.natCast_nonneg _, n.toNat_lt⟩
  show (ofInteger n.toNat).integer?.bind _ = _
  rw [hread, Option.bind_some, if_pos hsize, Int.toNat_natCast, UInt64.ofNat_toNat]

/-- And one with a sign, at both of its ends. -/
theorem stores_int64 (n : Int64) : Stores int64? (Manifest.ofInt64 n) n := by
  refine stores_of_not_object nofun ?_
  show (ofInteger n.toInt).integer?.bind _ = _
  rw [integer?_ofInteger, Option.bind_some, if_pos ⟨n.minValue_le_toInt, n.toInt_le⟩,
    Int64.ofInt_toInt]

/-- A value that is not `null` is read as what may be missing and is there. -/
theorem nullable_settled (h : v ≠ .null) :
    nullable reader v.settled = (reader v.settled).map some := by
  cases v with
  | null => exact absurd rfl h
  | _ => rfl

theorem Reorders.ne_null (h : w.Reorders v) (hv : v ≠ .null) : w ≠ .null := by
  cases h with
  | same => exact hv
  | object => exact Json.noConfusion

/-- A value that may be missing is `null` exactly if it is. -/
theorem stores_ofOption {write : α → Json} (h : ∀ a, Stores reader (write a) a)
    (hnull : ∀ a, write a ≠ .null) (o : Option α) :
    Stores (nullable reader) (ofOption write o) o := by
  cases o with
  | none => exact stores_of_not_object nofun rfl
  | some a =>
    intro w hw
    rw [nullable_settled (hw.ne_null (hnull a)), h a w hw]
    rfl

/-- A text that may be missing. -/
theorem stores_ofOption_text (o : Option String) :
    Stores (nullable text?) (ofOption ofText o) o := stores_ofOption stores_text nofun o

theorem stores_ofOption_uint64 (o : Option UInt64) :
    Stores (nullable uint64?) (ofOption Manifest.ofUInt64 o) o :=
  stores_ofOption stores_uint64 nofun o

theorem stores_ofOption_int64 (o : Option Int64) :
    Stores (nullable int64?) (ofOption Manifest.ofInt64 o) o := stores_ofOption stores_int64 nofun o

end

end Json

/-! ## Maps from characters -/

namespace Text.CharMap

open Json

/-- A text of one character is the key that is this character. -/
theorem key?_toString (c : Char) : key? c.toString = some c := by
  unfold key?
  rw [Char.toString_eq_singleton]
  simp

/-- A member that has been written and read puts its text under its character. -/
theorem addMember?_settled (m : CharMap) (e : Char × String) :
    addMember? m ((piecesOf e.1.toString).map Piece.settled, (ofText e.2).settled) =
      some (m.insert e.1 e.2) := by
  unfold addMember?
  dsimp only
  rw [stringText?_settled, stringText?_piecesOf, Option.bind_some, key?_toString,
    stores_text e.2 _ (.same _)]
  rfl

/-- The members one after another: each puts its text into the map. -/
theorem foldlM_addMember? (es : List (Char × String)) (m : CharMap) :
    (settledMembers (es.map fun e => (piecesOf e.1.toString, ofText e.2))).foldlM addMember? m =
      some (es.foldl (fun m e => m.insert e.1 e.2) m) := by
  induction es generalizing m with
  | nil => rfl
  | cons e es ih =>
    rw [List.map_cons, settledMembers, List.foldlM_cons, addMember?_settled]
    exact ih _

/-- Where no key is put twice, each has the text that was put there. -/
theorem get?_foldl_insert {es : List (Char × String)} (h : (es.map Prod.fst).Nodup) (m : CharMap)
    (k : Char) :
    (es.foldl (fun m e => m.insert e.1 e.2) m).get? k = (es.lookup k).or (m.get? k) := by
  induction es generalizing m with
  | nil => rfl
  | cons e es ih =>
    obtain ⟨he, hes⟩ := List.nodup_cons.1 h
    rw [List.foldl_cons, ih hes, get?_insert, Keyed.lookup_cons]
    by_cases hk : k = e.1
    · subst hk
      rw [if_pos rfl, if_pos rfl, Keyed.lookup_eq_none_of_not_mem he]
      rfl
    · rw [if_neg hk, if_neg hk]

/-- A map is read back from its members, whatever their order. -/
theorem stores_toJson (m : CharMap) : Stores ofJson? m.toJson m := by
  intro w hw
  obtain ⟨ns, rfl, hperm⟩ := hw.exists_perm (by
    intro e he os
    obtain ⟨e, -, rfl⟩ := List.mem_map.1 he
    exact Json.noConfusion)
  obtain ⟨es, rfl, hes⟩ := exists_map_of_perm hperm
  have hkeys : (es.map Prod.fst).Nodup := (hes.map Prod.fst).nodup_iff.2 (Manifest.nodup_keys m)
  have hread := foldlM_addMember? es empty
  rw [ofMembers, settled, ofJson?, List.map_map]
  refine hread.trans (congrArg some (ext_get? fun k => ?_))
  rw [get?_foldl_insert hkeys, get?_empty, Option.or_none]
  exact Keyed.lookup_of_perm hes hkeys k

end Text.CharMap

namespace Json

/-! ## What can be written -/

/-- The pieces of a text are proper, so it can be written. -/
theorem proper_ofText (s : String) : (ofText s).Proper := fun _ hp => proper_of_mem_piecesOf hp

/-- A number has no zero in front, unless it is zero. -/
theorem digits_eq_of_head? {n : Nat} (h : (Numeral.digits n).head? = some '0') :
    Numeral.digits n = ['0'] := by
  induction n using Nat.strongRecOn with
  | ind n ih =>
    by_cases hn : n < 10
    · unfold Numeral.digits at h ⊢
      rw [Nat.toDigits_of_lt_base hn] at h ⊢
      rw [Option.some.inj h]
    · have hdigits : Numeral.digits n = Numeral.digits (n / 10) ++ [(n % 10).digitChar] :=
        Nat.toDigits_of_base_le (by decide) (Nat.le_of_not_lt hn)
      rw [hdigits, List.head?_append_of_ne_nil _ (Numeral.digits_ne_nil _)] at h
      have hzero := congrArg Numeral.value (ih (n / 10) (by omega) h)
      rw [Numeral.value_digits] at hzero
      have htenth : n / 10 = 0 := hzero
      omega

/-- A whole number is written without a fraction, an exponent or needless zeros. -/
theorem proper_ofInteger (z : Int) : (ofInteger z).Proper :=
  { scientific := rfl
    digits := Numeral.isDigits_digits z.natAbs
    zero := digits_eq_of_head? }

theorem proper_ofOption {α : Type} {write : α → Json} (h : ∀ a, (write a).Proper) (o : Option α) :
    (ofOption write o).Proper := by
  cases o with
  | none => trivial
  | some a => exact h a

/-- A record can be written if its values can. -/
theorem proper_ofMembers {ms : List (String × Json)} (h : ∀ m ∈ ms, m.2.Proper) :
    (ofMembers ms).Proper := by
  refine properMembers_iff.2 fun m hm => ?_
  obtain ⟨e, he, rfl⟩ := List.mem_map.1 hm
  exact ⟨fun _ hp => proper_of_mem_piecesOf hp, h e he⟩

end Json

theorem Text.CharMap.proper_toJson (m : CharMap) : m.toJson.Proper := by
  refine Json.proper_ofMembers fun e he => ?_
  obtain ⟨e, -, rfl⟩ := List.mem_map.1 he
  exact Json.proper_ofText _

end Stratum
