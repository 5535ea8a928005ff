import Stratum.Proofs.JsonMembers
import Stratum.Proofs.Stored
import Stratum.Proofs.TomlText
import Stratum.Repository.LayoutFile

/-!
# Layouts with some of their fields

A layout file and a JSON object with the same entries are read as the same layout: the fields that
are given have the texts that are given, and the others have their defaults. It makes no difference
in which order the entries stand, how their keys and texts are spelled, and what scalars stand under
keys that are no fields.

> `load_content`: the layout in a file.
> `decode?_content`: the layout in an object.
> `load_eq_decode?`: they are the same.
> `exists_written`: whatever texts are given, there are such a file and such an object.
-/

namespace Stratum.Layout

open Text

/-- The text that entries give for a field, if they give one. -/
def given (es : List (String × Option String)) (f : Field) : Option String :=
  (es.lookup f.name).join

variable {es : List (String × Option String)}

/-- A field that is not given has no entry. -/
theorem given_eq_none (hfields : ∀ f : Field, (f.name, none) ∉ es) {f : Field}
    (h : given es f = none) : es.lookup f.name = none := by
  unfold given at h
  cases hlookup : es.lookup f.name with
  | none => rfl
  | some o =>
    rw [hlookup] at h
    obtain rfl : o = none := h
    obtain ⟨front, back, rfl, -⟩ := List.lookup_eq_some_iff.1 hlookup
    exact absurd (List.mem_append_right front List.mem_cons_self) (hfields f)

/-- A field that is given has an entry with its text. -/
theorem given_eq_some {f : Field} {s : String} (h : given es f = some s) :
    es.lookup f.name = some (some s) :=
  Option.join_eq_some_iff.1 h

/-! ## The file -/

/-- A document with these entries is the layout over the defaults. -/
theorem ofDocument?_eq_overlay (hfields : ∀ f : Field, (f.name, none) ∉ es) {d : Toml.Document}
    (hplace : ∀ k, d.place? [] k = (es.lookup k).map Toml.Place.value) :
    ofDocument? d = some (overlay (given es)) := by
  refine foldlM_eq_overlay (fun f hf l => ?_) fun f s hf l => ?_
  · unfold setFrom?
    rw [hplace, given_eq_none hfields hf]
    rfl
  · unfold setFrom?
    rw [hplace, given_eq_some hf]
    rfl

/-- **The layout in a file** with a line for each of its entries. -/
theorem load_content {ss : List Toml.Setting} {f : Files} {path : String}
    (hkeys : (ss.map Toml.Setting.key).Nodup)
    (hfields : ∀ f : Field, (f.name, none) ∉ ss.map Toml.Setting.entry)
    (hfile : f.read path = .ok (Utf8.encode (Toml.Setting.content ss))) :
    load f (some path) = .ok (overlay (given (ss.map Toml.Setting.entry))) := by
  obtain ⟨d, hread, hplace⟩ := Toml.ofText?_content hkeys
  unfold load ofFile
  simp only [hfile, Utf8.decode?_encode, hread, Option.bind_some,
    ofDocument?_eq_overlay hfields hplace]

/-! ## The object -/

/-- **The layout in an object** with a member for each of its entries. -/
theorem decode?_content {ms : List Json.Member} (hkeys : (ms.map Json.Member.key).Nodup)
    (hfields : ∀ f : Field, (f.name, none) ∉ ms.map Json.Member.entry) :
    Json.decode? ofJson? (Json.Member.content ms) =
      some (overlay (given (ms.map Json.Member.entry))) := by
  have hnames : ((ms.map fun m => (m.key, m.value)).map Prod.fst).Nodup := by
    rw [List.map_map]
    exact hkeys
  have hlookup : ∀ k, (ms.map Json.Member.entry).lookup k =
      ((ms.map fun m => (m.key, m.value)).lookup k).map Json.text? := by
    intro k
    have hmap := Keyed.lookup_map (fun _ v => Json.text? v) k (ms.map fun m => (m.key, m.value))
    rw [List.map_map] at hmap
    exact hmap
  unfold Json.decode?
  rw [Json.ofBytes?_content, Option.bind_some]
  refine ofJson?_of_slots (fun f => (ms.map fun m => (m.key, m.value)).lookup f.name) ?_ ?_ ?_
  · rw [Json.slots?_object (Json.named?_map_settled ms) hnames, List.map_map]
    rfl
  · intro f hf
    have hnone := given_eq_none hfields hf
    rw [hlookup] at hnone
    exact Option.map_eq_none_iff.1 hnone
  · intro f s hf
    have hsome := given_eq_some hf
    rw [hlookup] at hsome
    exact Option.map_eq_some_iff.1 hsome

/-! ## Both -/

/-- An entry gives its field. -/
theorem given_of_mem (hkeys : (es.map Prod.fst).Nodup) {f : Field} {s : String}
    (h : (f.name, some s) ∈ es) : given es f = some s := by
  unfold given
  rw [Keyed.lookup_of_mem (e := (f.name, some s)) hkeys h]
  rfl

/-- **A layout file and an object with the same entries** are read as the same layout, in whatever
order the entries stand and whatever scalars stand under keys that are no fields. It has the texts
that are given, and the defaults in the other fields; if all fields of a layout are given, it is that
layout. -/
theorem load_eq_decode? {f : Files} {path : String} {ss : List Toml.Setting} {ms : List Json.Member}
    (hkeys : (ss.map Toml.Setting.key).Nodup)
    (hfields : ∀ s ∈ ss, (Field.ofName? s.key).isSome → s.text.isSome)
    (hfile : f.read path = .ok (Utf8.encode (Toml.Setting.content ss)))
    (hsame : (ms.map Json.Member.entry).Perm (ss.map Toml.Setting.entry)) :
    ∃ l, load f (some path) = .ok l ∧
      Json.decode? ofJson? (Json.Member.content ms) = some l ∧
      (∀ s ∈ ss, ∀ (field : Field) (text : String), s.key = field.name → s.text = some text →
        l.get field = text) ∧
      (∀ field : Field, field.name ∉ ss.map Toml.Setting.key →
        l.get field = ({} : Layout).get field) ∧
      ∀ c : Layout, (∀ field : Field, (field.name, some (c.get field)) ∈
        ss.map Toml.Setting.entry) → l = c := by
  have hnames : ((ss.map Toml.Setting.entry).map Prod.fst).Nodup := by
    rw [List.map_map]
    exact hkeys
  have hnone : ∀ f : Field, (f.name, none) ∉ ss.map Toml.Setting.entry := by
    intro field hmem
    obtain ⟨s, hs, hentry⟩ := List.mem_map.1 hmem
    obtain ⟨hkey, htext⟩ := Prod.mk.inj hentry
    have hname : Field.ofName? s.key = some field := hkey ▸ Field.ofName?_name field
    have hsome := hfields s hs (Option.isSome_of_eq_some hname)
    rw [htext] at hsome
    cases hsome
  have hmembers : (ms.map Json.Member.key).Nodup := by
    have hperm := hsame.map Prod.fst
    rw [List.map_map, List.map_map] at hperm
    exact hperm.nodup_iff.2 hkeys
  have hgiven : given (ms.map Json.Member.entry) = given (ss.map Toml.Setting.entry) := by
    refine funext fun field => ?_
    unfold given
    rw [Keyed.lookup_of_perm hsame ((hsame.map Prod.fst).nodup_iff.2 hnames)]
  have hobject := decode?_content hmembers fun field hmem => hnone field (hsame.subset hmem)
  rw [hgiven] at hobject
  refine ⟨_, load_content hkeys hnone hfile, hobject, ?_, ?_, ?_⟩
  · intro s hs field text hkey htext
    have hmem : (field.name, some text) ∈ ss.map Toml.Setting.entry := by
      rw [← hkey, ← htext]
      exact List.mem_map_of_mem hs
    rw [get_overlay, given_of_mem hnames hmem]
    rfl
  · intro field hfield
    have hlookup : (ss.map Toml.Setting.entry).lookup field.name = none := by
      refine Keyed.lookup_eq_none_of_not_mem ?_
      rw [List.map_map]
      exact hfield
    rw [get_overlay, given, hlookup]
    rfl
  · intro c hc
    rw [← overlay_get c]
    refine congrArg overlay (funext fun field => ?_)
    exact given_of_mem hnames (hc field)

/-- **Whatever texts are given, they can be written**: as a file, and as an object. -/
theorem exists_written (es : List (String × String)) :
    ∃ (ss : List Toml.Setting) (ms : List Json.Member),
      ss.map Toml.Setting.entry = es.map (fun e => (e.1, some e.2)) ∧
        ms.map Json.Member.entry = es.map fun e => (e.1, some e.2) := by
  induction es with
  | nil => exact ⟨[], [], rfl, rfl⟩
  | cons e es ih =>
    obtain ⟨ss, ms, hss, hms⟩ := ih
    obtain ⟨s, hs⟩ := Toml.Setting.exists_entry e.1 e.2
    refine ⟨s :: ss, .ofText e.1 e.2 :: ms, ?_, ?_⟩
    · rw [List.map_cons, hs, hss, List.map_cons]
    · rw [List.map_cons, Json.Member.entry_ofText, hms, List.map_cons]

/-! ## Three entries -/

/-- A machine with one file. -/
def keeping (content : Bytes) : Files where
  entries := [(.of ["layout.toml"], .file content)]
  cwd := []
  nodup := by simp
  proper := by
    show ∀ p ∈ [Route.of ["layout.toml"]], Route.isProper p = true
    decide +kernel

/-- A file with a text in it that has escapes, a number under a key that is no field, and a text as
it is. -/
def fileOfThree : Bytes :=
  "rest_connector = \"\\u002f\\\"😀\"\n'größe' = 1.5e3\nconfig_root = '/opt'\n".utf8

/-- The lines of that file. -/
def threeSettings : List Toml.Setting :=
  [{ key := String.ofList "rest_connector".toList
     text := some (String.ofList ['/', '"', '😀'])
     keyText := "rest_connector".toList
     valueText := '"' :: ("\\u002f\\\"😀".toList ++ ['"'])
     keySpelled := .bare (List.cons_ne_nil _ _) (List.all_eq_true.1 rfl)
     valueSpelled := .text (.basic (.escape (.short rfl) (.escape (.letter rfl)
       (.plain rfl (by decide) (by decide) .nil)))) },
   { key := String.ofList "größe".toList
     text := none
     keyText := '\'' :: ("größe".toList ++ ['\''])
     valueText := "1.5e3".toList
     keySpelled := .quoted (Toml.quoted_literal rfl)
     valueSpelled := .scalar (by decide) (by decide +kernel) },
   { key := String.ofList "config_root".toList
     text := some (String.ofList "/opt".toList)
     keyText := "config_root".toList
     valueText := '\'' :: ("/opt".toList ++ ['\''])
     keySpelled := .bare (List.cons_ne_nil _ _) (List.all_eq_true.1 rfl)
     valueSpelled := .text (Toml.quoted_literal rfl) }]

/-- An object with the same entries in another order. -/
def objectOfThree : Bytes :=
  "\x7b\"config_root\":\"/opt\",\"rest_connector\":\"/\\\"😀\",\"größe\":1500.0\x7d".utf8

/-- The members of that object. -/
def threeMembers : List Json.Member :=
  [.ofText "config_root" "/opt", .ofText "rest_connector" "/\"😀",
   { key := "größe"
     value := .number ⟨false, "1500".toList, true⟩
     keyPieces := Json.piecesOf "größe"
     valueText := "1500.0".utf8
     keyProper := fun _ hp => Json.proper_of_mem_piecesOf hp
     keySpelled := Json.stringText?_piecesOf "größe"
     valueSpelled := .number (by decide +kernel) }]

theorem load_eq_decode?_three :
    ∃ l, load (keeping fileOfThree) (some "/layout.toml") = .ok l ∧
      Json.decode? ofJson? objectOfThree = some l ∧
      l.root = "/opt" ∧ l.connector = "/\"😀" ∧ l.version = "unknown" := by
  have hlines : fileOfThree = Utf8.encode (Toml.Setting.content threeSettings) := by decide +kernel
  have hmembers : objectOfThree = Json.Member.content threeMembers := by decide +kernel
  have hread : (keeping fileOfThree).read "/layout.toml" =
      .ok (Utf8.encode (Toml.Setting.content threeSettings)) := by
    rw [← hlines]
    rfl
  have hkeys : (threeSettings.map Toml.Setting.key).Nodup := by decide
  have hsame : (threeMembers.map Json.Member.entry).Perm
      (threeSettings.map Toml.Setting.entry) := by decide +kernel
  obtain ⟨l, hload, hdecode, htexts, hdefaults, -⟩ :=
    load_eq_decode? hkeys (by decide) hread hsame
  rw [← hmembers] at hdecode
  refine ⟨l, hload, hdecode, ?_, ?_, hdefaults .version (by decide)⟩
  · exact htexts threeSettings[2] (List.getElem_mem _) .root "/opt" (by decide) (by decide)
  · exact htexts threeSettings[0] (List.getElem_mem _) .connector "/\"😀" (by decide) (by decide)

end Stratum.Layout
