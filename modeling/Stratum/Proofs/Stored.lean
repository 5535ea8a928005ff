import Stratum.Proofs.Records

/-!
# What is stored is read back

Manifests, layouts, kinds and the answers of the control interface are read from the JSON that is
written for them, whatever texts and numbers they hold, and in whatever order the members stand. A
record may have some of the fields of a layout only; the others then keep their defaults.

> `Layout.foldlM_eq_overlay`: fields that are set one by one, over the defaults.
> `Layout.ofJson?_of_slots`: the layout in a record with some of the fields.
> `decode?_reordered`: what is stored is read back.
-/

namespace Stratum

open Text

/-! ## Answers -/

namespace Control

open Json

/-- The answer about a server is read from what is written for it. -/
theorem Info.stores_toJson (i : Info) : Stores Info.ofJson? i.toJson i := by
  intro w hw
  have hrecord : w.Reorders (ofMembers (Info.names.zip [ofText i.kind, ofText i.version])) := hw
  obtain ⟨us, hus, hslots⟩ := slots?_of_reorders (by decide) rfl hrecord false
  obtain _ | ⟨hkind, _ | ⟨hversion, _ | _⟩⟩ := hus
  unfold Info.ofJson?
  rw [hslots]
  simp only [List.map_cons, List.map_nil, required, Option.bind_some, stores_text _ _ hkind,
    stores_text _ _ hversion, Option.bind_eq_bind]
  rfl

theorem Info.proper_toJson (i : Info) : i.toJson.Proper :=
  proper_ofMembers (List.forall_mem_cons.2 ⟨proper_ofText i.kind,
    List.forall_mem_singleton.2 (proper_ofText i.version)⟩)

/-- So is the reply to a request, with its result or without one. -/
theorem Reply.stores_toJson (r : Reply) : Stores Reply.ofJson? r.toJson r := by
  intro w hw
  have hrecord : w.Reorders (ofMembers (Reply.names.zip [ofOption ofText r.result])) := hw
  obtain ⟨us, hus, hslots⟩ := slots?_of_reorders (by decide) rfl hrecord true
  obtain _ | ⟨hresult, _ | _⟩ := hus
  unfold Reply.ofJson?
  rw [hslots]
  simp only [List.map_cons, List.map_nil, Json.optional, stores_ofOption_text _ _ hresult,
    Option.map_some]

theorem Reply.proper_toJson (r : Reply) : r.toJson.Proper :=
  proper_ofMembers (List.forall_mem_singleton.2 (proper_ofOption proper_ofText r.result))

end Control

/-! ## Kinds -/

/-- A kind is read back by its name. -/
theorem Kind.stores_toJson (k : Kind) : Json.Stores Kind.ofJson? k.toJson k := by
  refine Json.stores_of_not_object nofun ?_
  show (Json.ofText k.name).settled.text?.bind ofName? = some k
  rw [Json.stores_text k.name _ (.same _), Option.bind_some, ofName?_name]

/-! ## Manifests -/

namespace Manifest

open Json

/-- **A manifest is read back**, field by field. -/
theorem stores_toJson (m : Manifest) : Stores ofJson? m.toJson m := by
  intro w hw
  obtain ⟨us, hus, hslots⟩ := slots?_of_reorders (by decide) rfl hw false
  obtain _ | ⟨hname, _ | ⟨hcatalog, _ | ⟨hhash, _ | ⟨hsize, _ | ⟨hcertificate, hus⟩⟩⟩⟩⟩ := hus
  obtain _ | ⟨hhistory, _ | ⟨hmodified, _ | ⟨httl, _ | ⟨hrevision, hus⟩⟩⟩⟩ := hus
  obtain _ | ⟨hcollectable, _ | ⟨hother, _ | _⟩⟩ := hus
  unfold ofJson?
  rw [hslots]
  simp only [List.map_cons, List.map_nil, required, Json.optional, Option.bind_some,
    Option.bind_eq_bind, stores_text _ _ hname, stores_ofOption_text _ _ hcatalog,
    stores_ofOption_text _ _ hhash, stores_ofOption_uint64 _ _ hsize,
    stores_ofOption_text _ _ hcertificate, stores_ofOption_text _ _ hhistory,
    stores_ofOption_int64 _ _ hmodified, stores_ofOption_uint64 _ _ httl,
    stores_ofOption_uint64 _ _ hrevision, stores_bool _ _ hcollectable,
    CharMap.stores_toJson _ _ hother]
  rfl

/-- Each of its fields can be written. -/
theorem proper_toJson (m : Manifest) : m.toJson.Proper := by
  have htext := proper_ofOption proper_ofText
  have hsigned := proper_ofOption fun n : Int64 => proper_ofInteger n.toInt
  have hunsigned := proper_ofOption fun n : UInt64 => proper_ofInteger n.toNat
  refine proper_ofMembers fun e he => ?_
  have hvalue := (List.of_mem_zip he).2
  simp only [List.mem_cons, List.not_mem_nil, or_false] at hvalue
  rcases hvalue with h | h | h | h | h | h | h | h | h | h | h <;> rw [h]
  · exact proper_ofText _
  · exact htext _
  · exact htext _
  · exact hunsigned _
  · exact htext _
  · exact htext _
  · exact hsigned _
  · exact hunsigned _
  · exact hunsigned _
  · trivial
  · exact m.other.proper_toJson

end Manifest

/-! ## Layouts -/

namespace Layout

open Json

/-- Layouts with the same text in every field are the same. -/
theorem ext_get {l l' : Layout} (h : ∀ f, l.get f = l'.get f) : l = l' := by
  obtain ⟨⟩ := l
  obtain ⟨⟩ := l'
  congr
  · exact h .root
  · exact h .serverConfName
  · exact h .manifestName
  · exact h .lastReplicationName
  · exact h .replicatingName
  · exact h .connector
  · exact h .version

/-- The list of the fields has them all. -/
theorem Field.mem_all (f : Field) : f ∈ all := by cases f <;> decide

/-- The layout with these texts in its fields. -/
def ofFields (text : Field → String) : Layout where
  root := text .root
  serverConfName := text .serverConfName
  manifestName := text .manifestName
  lastReplicationName := text .lastReplicationName
  replicatingName := text .replicatingName
  connector := text .connector
  version := text .version

/-- The layout that has the texts that are given, and the defaults in the other fields. -/
def overlay (given : Field → Option String) : Layout :=
  ofFields fun f => (given f).getD (({} : Layout).get f)

/-- A field of it is what was given, or the default. -/
theorem get_overlay (given : Field → Option String) (f : Field) :
    (overlay given).get f = (given f).getD (({} : Layout).get f) := by
  cases f <;> rfl

/-- Where all fields are given, there is nothing left of the defaults. -/
theorem overlay_get (l : Layout) : overlay (fun f => some (l.get f)) = l :=
  ext_get fun f => get_overlay _ f

/-- **Setting the given fields one by one** leads from the defaults to the layout over them. -/
theorem foldlM_eq_overlay {step : Layout → Field → Option Layout} {given : Field → Option String}
    (hnone : ∀ f, given f = none → ∀ l, step l f = some l)
    (hsome : ∀ f s, given f = some s → ∀ l, step l f = some (l.set s f)) :
    Field.all.foldlM step {} = some (overlay given) := by
  -- Wherever the rest of the fields starts, those behind it are settled, and so are those that
  -- nothing is given for.
  suffices ∀ (fs : List Field) (l : Layout),
      (∀ f, given f = none ∨ f ∉ fs → l.get f = (overlay given).get f) →
      fs.foldlM step l = some (overlay given) by
    refine this Field.all {} fun f hf => ?_
    rcases hf with hf | hf
    · rw [get_overlay, hf]
      rfl
    · exact absurd (Field.mem_all f) hf
  intro fs
  induction fs with
  | nil =>
    intro l hl
    obtain rfl := ext_get fun f => hl f (Or.inr List.not_mem_nil)
    rfl
  | cons g fs ih =>
    intro l hl
    rw [List.foldlM_cons]
    cases hg : given g with
    | none =>
      rw [hnone g hg]
      refine ih l fun f hf => hl f ?_
      by_cases heq : f = g
      · exact Or.inl (heq ▸ hg)
      · exact hf.imp_right fun hf => List.not_mem_cons_of_ne_of_not_mem heq hf
    | some s =>
      rw [hsome g s hg]
      refine ih (l.set s g) fun f hf => ?_
      rw [get_set]
      by_cases heq : g = f
      · rw [if_pos heq, get_overlay, ← heq, hg]
        rfl
      · rw [if_neg heq]
        exact hl f (hf.imp_right fun hf => List.not_mem_cons_of_ne_of_not_mem (Ne.symm heq) hf)

/-- **The layout in a record** has the texts in its slots, and the defaults where these are empty. -/
theorem ofJson?_of_slots {v : Json} {given : Field → Option String} (slot : Field → Option Json)
    (hslots : v.slots? (Field.all.map Field.name) true = some (Field.all.map slot))
    (hnone : ∀ f, given f = none → slot f = none)
    (hsome : ∀ f s, given f = some s → ∃ u, slot f = some u ∧ u.text? = some s) :
    ofJson? v = some (overlay given) := by
  have hzip : Field.all.zip (Field.all.map slot) = Field.all.map fun f => (f, slot f) := rfl
  unfold ofJson?
  rw [hslots, Option.bind_some, hzip, List.foldlM_map]
  refine foldlM_eq_overlay (fun f hf l => ?_) fun f s hf l => ?_
  · rw [hnone f hf, setSlot?]
  · obtain ⟨u, hu, htext⟩ := hsome f s hf
    rw [hu, setSlot?, htext]
    rfl

/-- A layout is read back, though its members are set one by one in the order of the reader. -/
theorem stores_toJson (l : Layout) : Stores ofJson? l.toJson l := by
  intro w hw
  obtain ⟨ms, rfl, hperm⟩ := hw.exists_perm (by
    intro e he os
    obtain ⟨f, -, rfl⟩ := List.mem_map.1 he
    exact Json.noConfusion)
  have hnames : ((Field.all.map fun f => (f.name, ofText (l.get f))).map Prod.fst).Nodup := by
    rw [List.map_map]
    show (Field.all.map Field.name).Nodup
    decide
  have hkeys : (ms.map Prod.fst).Nodup := (hperm.map Prod.fst).nodup_iff.2 hnames
  have hlookup : ∀ f : Field, ms.lookup f.name = some (ofText (l.get f)) := by
    intro f
    rw [Keyed.lookup_of_perm hperm hkeys]
    exact Keyed.lookup_of_mem (e := (f.name, ofText (l.get f))) hnames
      (List.mem_map_of_mem (Field.mem_all f))
  rw [← overlay_get l]
  refine ofJson?_of_slots (fun f => (ms.lookup f.name).map settled) ?_ nofun fun f s hs => ?_
  · rw [slots?_ofMembers hkeys, List.map_map]
    rfl
  · obtain rfl := Option.some.inj hs
    refine ⟨_, ?_, stores_text (l.get f) _ (.same _)⟩
    rw [hlookup]
    rfl

theorem proper_toJson (l : Layout) : l.toJson.Proper := by
  refine proper_ofMembers fun e he => ?_
  obtain ⟨f, -, rfl⟩ := List.mem_map.1 he
  exact proper_ofText _

end Layout

namespace Json

/-- **What is stored is read back**: a manifest, an answer of the control interface, a kind and a
layout is read from the text that is written for it, and from every text that has the members of the
objects in it in another order. -/
theorem decode?_reordered :
    (∀ (m : Manifest) (w : Json), w.Reorders m.toJson →
      decode? Manifest.ofJson? w.write = some m) ∧
    (∀ (i : Control.Info) (w : Json), w.Reorders i.toJson →
      decode? Control.Info.ofJson? w.write = some i) ∧
    (∀ (r : Control.Reply) (w : Json), w.Reorders r.toJson →
      decode? Control.Reply.ofJson? w.write = some r) ∧
    (∀ (k : Kind) (w : Json), w.Reorders k.toJson → decode? Kind.ofJson? w.write = some k) ∧
    ∀ (l : Layout) (w : Json), w.Reorders l.toJson → decode? Layout.ofJson? w.write = some l := by
  refine ⟨?_, ?_, ?_, ?_, ?_⟩
  · intro m w hw
    exact decode?_of_stores m.stores_toJson m.proper_toJson hw
  · intro i w hw
    exact decode?_of_stores i.stores_toJson i.proper_toJson hw
  · intro r w hw
    exact decode?_of_stores r.stores_toJson r.proper_toJson hw
  · intro k w hw
    exact decode?_of_stores k.stores_toJson (proper_ofText k.name) hw
  · intro l w hw
    exact decode?_of_stores l.stores_toJson l.proper_toJson hw

/-- A manifest with texts that have to be escaped, numbers at their limits, and keys of one
to four bytes. -/
def limits : Manifest where
  repositoryName := "x\"\\\n\x01😀"
  rootCatalog := some ""
  rootHash := none
  rootCatalogSize := some 18446744073709551615
  certificate := none
  historyDatabase := none
  lastModified := some (-9223372036854775808)
  ttl := some 0
  revision := none
  garbageCollectable := true
  other := ⟨[('\x01', "a"), ('"', "b"), ('\\', ""), ('ä', "c"), ('😀', "d")], by decide⟩

theorem decode?_reordered_limits :
    decode? Control.Info.ofJson? "\x7b\"version\":\"2.11\",\"type\":\"stratum1\"\x7d".utf8 =
      some ⟨"stratum1", "2.11"⟩ ∧
    decode? Manifest.ofJson? limits.toJson.write = some limits := by
  obtain ⟨hmanifest, hinfo, -, -, -⟩ := decode?_reordered
  refine ⟨?_, hmanifest limits _ (.same _)⟩
  have htext : "\x7b\"version\":\"2.11\",\"type\":\"stratum1\"\x7d".utf8 =
      (ofMembers [("version", ofText "2.11"), ("type", ofText "stratum1")]).write := by
    decide +kernel
  rw [htext]
  exact hinfo ⟨"stratum1", "2.11"⟩ _ (reorders_of_perm (List.Perm.swap _ _ _))

end Json

end Stratum
