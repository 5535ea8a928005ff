import Stratum.Control
import Stratum.Json.Record
import Stratum.Json.Writer
import Stratum.Kind
import Stratum.Layout
import Stratum.Manifest

/-!
# What the library stores as JSON

Manifests, layouts, kinds and the answers of the control interface as JSON, and back. Each of
them is written in one way; what is read may have its members in any order, more members than
are known, and, for a layout, fewer.

> `Kind.ofJson?_toJson`: a kind is read back.
-/

namespace Stratum

open Text

/-! ## Kinds -/

/-- A kind is written by its name. -/
def Kind.toJson (k : Kind) : Json := Json.ofText k.name

/-- A kind is a name, or an object with that name over nothing. -/
def Kind.ofJson? : Json → Option Kind
  | .object [(key, .null)] => (Json.stringText? key).bind Kind.ofName?
  | v => v.text?.bind Kind.ofName?

/-! ## Answers of the control interface -/

namespace Control

/-- The fields of `Info`. -/
def Info.names : List String := ["type", "version"]

/-- An answer about a repository as a record of its fields. -/
def Info.toJson (i : Info) : Json :=
  .ofMembers [("type", .ofText i.kind), ("version", .ofText i.version)]

/-- The answer about a repository in a record; both fields must be there. -/
def Info.ofJson? (v : Json) : Option Info :=
  match v.slots? Info.names false with
  | some [kind, version] => do
    let kind ← Json.required Json.text? kind
    let version ← Json.required Json.text? version
    return { kind, version }
  | _ => none

/-- The fields of `Reply`. -/
def Reply.names : List String := ["result"]

/-- An answer to a call for replication as a record of its field. -/
def Reply.toJson (r : Reply) : Json :=
  .ofMembers [("result", .ofOption .ofText r.result)]

/-- The answer to a call for replication in a record; the field may be missing. -/
def Reply.ofJson? (v : Json) : Option Reply :=
  match v.slots? Reply.names true with
  | some [result] => (Json.optional Json.text? result).map fun result => { result }
  | _ => none

end Control

/-! ## Texts keyed by single characters -/

/-- A member for each key, in ascending order. -/
def Text.CharMap.toJson (m : CharMap) : Json :=
  .ofMembers (m.entries.map fun (k, v) => (k.toString, .ofText v))

/-- A key that is one character. -/
def Text.CharMap.key? (s : String) : Option Char :=
  match s.toList with
  | [c] => some c
  | _ => none

/-- Adds one member, in the place of an earlier one with its key. -/
def Text.CharMap.addMember? (m : CharMap) (member : List Json.Piece × Json) : Option CharMap := do
  let key ← (Json.stringText? member.1).bind CharMap.key?
  let value ← member.2.text?
  return m.insert key value

/-- An object whose keys are single characters; of members with one key the last counts. -/
def Text.CharMap.ofJson? : Json → Option CharMap
  | .object ms => ms.foldlM CharMap.addMember? CharMap.empty
  | _ => none

/-! ## Manifests -/

namespace Manifest

/-- The fields of a manifest. -/
def names : List String :=
  ["repository_name", "root_catalog", "root_hash", "root_catalog_size", "certificate",
    "history_database", "last_modified", "ttl", "revision", "garbage_collectable", "other"]

/-- An unsigned number as a value. -/
def ofUInt64 (n : UInt64) : Json := .ofInteger n.toNat

/-- A signed number as a value. -/
def ofInt64 (n : Int64) : Json := .ofInteger n.toInt

/-- A manifest as a record of its fields. -/
def toJson (m : Manifest) : Json :=
  .ofMembers (names.zip
    [.ofText m.repositoryName, .ofOption .ofText m.rootCatalog, .ofOption .ofText m.rootHash,
      .ofOption ofUInt64 m.rootCatalogSize, .ofOption .ofText m.certificate,
      .ofOption .ofText m.historyDatabase, .ofOption ofInt64 m.lastModified,
      .ofOption ofUInt64 m.ttl, .ofOption ofUInt64 m.revision, .bool m.garbageCollectable,
      m.other.toJson])

/-- The manifest in a record; its name, its flag and the map of other fields must be there. -/
def ofJson? (v : Json) : Option Manifest :=
  match v.slots? names false with
  | some [name, rootCatalog, rootHash, size, certificate, history, modified, ttl, revision,
      collectable, other] => do
    let repositoryName ← Json.required Json.text? name
    let rootCatalog ← Json.optional Json.text? rootCatalog
    let rootHash ← Json.optional Json.text? rootHash
    let rootCatalogSize ← Json.optional Json.uint64? size
    let certificate ← Json.optional Json.text? certificate
    let historyDatabase ← Json.optional Json.text? history
    let lastModified ← Json.optional Json.int64? modified
    let ttl ← Json.optional Json.uint64? ttl
    let revision ← Json.optional Json.uint64? revision
    let garbageCollectable ← Json.required Json.bool? collectable
    let other ← Json.required CharMap.ofJson? other
    return {
      repositoryName, rootCatalog, rootHash, rootCatalogSize, certificate, historyDatabase,
      lastModified, ttl, revision, garbageCollectable, other }
  | _ => none

end Manifest

/-! ## Layouts -/

namespace Layout

/-- A layout as a record of its fields. -/
def toJson (l : Layout) : Json := .ofMembers (Field.all.map fun f => (f.name, .ofText (l.get f)))

/-- Sets a field to what its slot holds, if that is not empty. -/
def setSlot? (l : Layout) : Field × Option Json → Option Layout
  | (_, none) => some l
  | (f, some v) => v.text?.map fun s => l.set s f

/-- The layout in a record; a field that is missing keeps its default. -/
def ofJson? (v : Json) : Option Layout :=
  (v.slots? (Field.all.map Field.name) true).bind fun slots =>
    (Field.all.zip slots).foldlM setSlot? {}

end Layout

/-- A kind that is written is read back. -/
theorem Kind.ofJson?_toJson (k : Kind) : Kind.ofJson? k.toJson = some k := by
  cases k <;> decide +kernel

/-- Reads a whole text as JSON, and its value with `reader`. -/
def Json.decode? {α : Type} (reader : Json → Option α) (content : Bytes) : Option α :=
  (Json.ofBytes? content).bind reader

end Stratum
