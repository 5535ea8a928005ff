import Stratum.Json.Reader

/-!
# Records in JSON

A record is an object with a member for each field, or an array with the fields in order. In
an object the order does not matter and members that are no field are passed over, but no
field may be given twice, and every key has to be a text. An array must not be longer than
the record, and shorter only where the record allows it.

> `slots?_length`: reading a record gives one slot for each of its fields.
-/

namespace Stratum

namespace Json

/-- The members with their keys as texts, if all keys are texts. -/
def named? (ms : List (List Piece × Json)) : Option (List (String × Json)) :=
  ms.mapM fun (k, v) => (stringText? k).map (·, v)

/-- Whether a key occurs more than once among members. -/
def isRepeated (ms : List (String × Json)) (key : String) : Bool :=
  1 < (ms.filter (·.1 == key)).length

/-- The values of the fields with these names, `none` for a field that is missing. -/
def slots? (names : List String) (shortArray : Bool) : Json → Option (List (Option Json))
  | object ms => do
    let ms ← named? ms
    if names.any (isRepeated ms) then none else some (names.map fun n => List.lookup n ms)
  | array vs =>
    if vs.length ≤ names.length && (shortArray || vs.length == names.length) then
      some (vs.map some ++ List.replicate (names.length - vs.length) none)
    else none
  | _ => none

/-- A field that has to be there. -/
def required {α : Type} (reader : Json → Option α) (slot : Option Json) : Option α :=
  slot.bind reader

/-- A field that may be missing or `null`. -/
def optional {α : Type} (reader : Json → Option α) : Option Json → Option (Option α)
  | none => some none
  | some v => nullable reader v

/-- There is one slot for each name, whatever was read. -/
theorem slots?_length {names : List String} {short : Bool} {v : Json} {ss : List (Option Json)}
    (h : slots? names short v = some ss) : ss.length = names.length := by
  unfold slots? at h
  split at h
  · obtain ⟨ms, -, h⟩ := Option.bind_eq_some_iff.1 h
    split at h
    · cases h
    · cases h; simp
  · split at h
    · next vs hv =>
      cases h
      simp only [Bool.and_eq_true, decide_eq_true_eq] at hv
      simp only [List.length_append, List.length_map, List.length_replicate]
      omega
    · cases h
  · cases h

end Json

end Stratum
