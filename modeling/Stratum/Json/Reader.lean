import Stratum.Json.Token

/-!
# Reading JSON

The structure of a JSON text, from its tokens. Arrays and objects may be nested to any depth,
and a comma always has another item behind it.

The two functions take turns, one for a value and one for what is inside brackets. Each turn
takes at least a token, except the one from the inside of brackets to its first value, so twice
the number of tokens bounds the turns.

> `length_value?`: a value takes a token at least.
-/

namespace Stratum

open Text

namespace Json

mutual

/-- The value at the front of the tokens, and what follows it. -/
def value? : Nat → List Token → Option (Json × List Token)
  | _, .null :: r => some (null, r)
  | _, .bool b :: r => some (bool b, r)
  | _, .number n :: r => some (number n, r)
  | _, .string s :: r => some (string s, r)
  | _, .openArray :: .closeArray :: r => some (array [], r)
  | n + 1, .openArray :: r => (items? n r).map fun (vs, r) => (array vs, r)
  | _, .openObject :: .closeObject :: r => some (object [], r)
  | n + 1, .openObject :: r => (members? n r).map fun (ms, r) => (object ms, r)
  | _, _ => none

/-- One or more values with commas between them, the closing bracket, and what follows. -/
def items? : Nat → List Token → Option (List Json × List Token)
  | n + 1, ts =>
    match value? n ts with
    | some (v, .closeArray :: r) => some ([v], r)
    | some (v, .comma :: r) => (items? n r).map fun (vs, r) => (v :: vs, r)
    | _ => none
  | 0, _ => none

/-- One or more members with commas between them, the closing brace, and what follows. -/
def members? : Nat → List Token → Option (List (List Piece × Json) × List Token)
  | n + 1, .string k :: .colon :: ts =>
    match value? n ts with
    | some (v, .closeObject :: r) => some ([(k, v)], r)
    | some (v, .comma :: r) => (members? n r).map fun (ms, r) => ((k, v) :: ms, r)
    | _ => none
  | _, _ => none

end

/-- The value that the tokens make up as a whole. -/
def ofTokens? (ts : List Token) : Option Json :=
  match value? (2 * ts.length) ts with
  | some (v, []) => some v
  | _ => none

/-- The value of a JSON text. -/
def ofBytes? (s : Bytes) : Option Json := (tokens? s).bind ofTokens?

/-- How deeply arrays and objects are nested. -/
def depth : Json → Nat
  | array vs => 1 + depthItems vs
  | object ms => 1 + depthMembers ms
  | _ => 0
where
  /-- The greatest depth among values. -/
  depthItems : List Json → Nat
    | [] => 0
    | v :: vs => max (depth v) (depthItems vs)
  /-- The greatest depth among the values of members. -/
  depthMembers : List (List Piece × Json) → Nat
    | [] => 0
    | (_, v) :: ms => max (depth v) (depthMembers ms)

/-- Whether all strings in a value are texts. -/
def isText : Json → Bool
  | string s => (stringText? s).isSome
  | array vs => isTextItems vs
  | object ms => isTextMembers ms
  | _ => true
where
  /-- Whether all strings in values are texts. -/
  isTextItems : List Json → Bool
    | [] => true
    | v :: vs => isText v && isTextItems vs
  /-- Whether all keys of members are texts, and all strings in their values. -/
  isTextMembers : List (List Piece × Json) → Bool
    | [] => true
    | (k, v) :: ms => (stringText? k).isSome && isText v && isTextMembers ms

/-- A value takes a token at least, and so does what is inside brackets. -/
theorem length_value? (n : Nat) :
    (∀ {ts v r}, value? n ts = some (v, r) → r.length < ts.length) ∧
    (∀ {ts vs r}, items? n ts = some (vs, r) → r.length < ts.length) ∧
    ∀ {ts ms r}, members? n ts = some (ms, r) → r.length < ts.length := by
  induction n using Nat.strongRecOn with
  | ind n ih =>
    refine ⟨fun {ts v r} h => ?_, fun {ts vs r} h => ?_, fun {ts ms r} h => ?_⟩
    · unfold value? at h
      split at h
      case h_6 n q _ =>
        obtain ⟨⟨vs, r'⟩, hitems, hr⟩ := Option.map_eq_some_iff.1 h
        cases hr
        exact Nat.lt_succ_of_lt ((ih n (Nat.lt_succ_self n)).2.1 hitems)
      case h_8 n q _ =>
        obtain ⟨⟨ms, r'⟩, hmembers, hr⟩ := Option.map_eq_some_iff.1 h
        cases hr
        exact Nat.lt_succ_of_lt ((ih n (Nat.lt_succ_self n)).2.2 hmembers)
      case h_9 => cases h
      all_goals
        cases h
        simp only [List.length_cons]
        omega
    · unfold items? at h
      split at h
      next _ n =>
        have hvalue := @(ih n (Nat.lt_succ_self n)).1
        split at h
        next q hq =>
          cases h
          exact Nat.lt_of_succ_lt (hvalue hq)
        next q hq =>
          obtain ⟨⟨vs, r'⟩, hitems, hr⟩ := Option.map_eq_some_iff.1 h
          cases hr
          exact Nat.lt_trans ((ih n (Nat.lt_succ_self n)).2.1 hitems)
            (Nat.lt_of_succ_lt (hvalue hq))
        next => cases h
      next => cases h
    · unfold members? at h
      split at h
      next n k ts =>
        have hvalue := @(ih n (Nat.lt_succ_self n)).1
        split at h
        next q hq =>
          cases h
          exact Nat.lt_succ_of_lt (Nat.lt_succ_of_lt (Nat.lt_of_succ_lt (hvalue hq)))
        next q hq =>
          obtain ⟨⟨ms, r'⟩, hmembers, hr⟩ := Option.map_eq_some_iff.1 h
          cases hr
          exact Nat.lt_succ_of_lt (Nat.lt_succ_of_lt (Nat.lt_trans
            ((ih n (Nat.lt_succ_self n)).2.2 hmembers) (Nat.lt_of_succ_lt (hvalue hq))))
        next => cases h
      next => cases h

end Json

end Stratum
