import Stratum.Json.Reader
import Stratum.Proofs.JsonSpelling

/-!
# JSON texts as they are written

A value that is written is cut into its tokens again, whatever is written behind it that does not go
on with it, and its tokens make up the value again, whatever tokens follow. Both follow the structure
of the value: one lemma for a value, one for the items of an array, one for the members of an object.

> `cuts_write`: a value that is written is cut into its tokens.
> `value?_tokens`: the tokens of a value make up that value.
> `ofBytes?_write`: a value that is written is read back, up to the spelling of its strings.
-/

namespace Stratum.Json

open Text

/-! ## Values that are written, and as what they come back -/

mutual

/-- A value that can be written: its numbers are whole, and the units of its strings have sixteen
bits. -/
def Proper : Json → Prop
  | null => True
  | bool _ => True
  | number n => n.Proper
  | string s => ∀ p ∈ s, p.Proper
  | array vs => ProperItems vs
  | object ms => ProperMembers ms

/-- So are all of these values. -/
def ProperItems : List Json → Prop
  | [] => True
  | v :: vs => Proper v ∧ ProperItems vs

/-- So are the keys and the values of all these members. -/
def ProperMembers : List (List Piece × Json) → Prop
  | [] => True
  | (k, v) :: ms => (∀ p ∈ k, p.Proper) ∧ Proper v ∧ ProperMembers ms

end

mutual

/-- The value with its strings spelled as they are read. -/
def settled : Json → Json
  | null => null
  | bool b => bool b
  | number n => number n
  | string s => string (s.map Piece.settled)
  | array vs => array (settledItems vs)
  | object ms => object (settledMembers ms)

/-- The values with their strings spelled as they are read. -/
def settledItems : List Json → List Json
  | [] => []
  | v :: vs => settled v :: settledItems vs

/-- The members with their strings spelled as they are read. -/
def settledMembers : List (List Piece × Json) → List (List Piece × Json)
  | [] => []
  | (k, v) :: ms => (k.map Piece.settled, settled v) :: settledMembers ms

end

mutual

/-- The tokens of a value. -/
def tokens : Json → List Token
  | null => [.null]
  | bool b => [.bool b]
  | number n => [.number n]
  | string s => [.string s]
  | array vs => .openArray :: (itemTokens vs ++ [.closeArray])
  | object ms => .openObject :: (memberTokens ms ++ [.closeObject])

/-- The tokens of values with commas between them. -/
def itemTokens : List Json → List Token
  | [] => []
  | [v] => tokens v
  | v :: vs => tokens v ++ .comma :: itemTokens vs

/-- The tokens of members with commas between them. -/
def memberTokens : List (List Piece × Json) → List Token
  | [] => []
  | [(k, v)] => .string k :: .colon :: tokens v
  | (k, v) :: ms => .string k :: .colon :: (tokens v ++ .comma :: memberTokens ms)

end

/-- Items are cut by commas. -/
theorem itemTokens_cons (v w : Json) (vs : List Json) :
    itemTokens (v :: w :: vs) = v.tokens ++ .comma :: itemTokens (w :: vs) := by
  rw [itemTokens]
  exact List.cons_ne_nil w vs

/-- Members are cut by commas, each with a colon behind its key. -/
theorem memberTokens_cons (k : List Piece) (v : Json) (m : List Piece × Json)
    (ms : List (List Piece × Json)) :
    memberTokens ((k, v) :: m :: ms) =
      .string k :: .colon :: (v.tokens ++ .comma :: memberTokens (m :: ms)) := by
  rw [memberTokens]
  exact List.cons_ne_nil m ms

/-- An object can be written if its keys and values can. -/
theorem properMembers_iff {ms : List (List Piece × Json)} :
    ProperMembers ms ↔ ∀ m ∈ ms, (∀ p ∈ m.1, p.Proper) ∧ m.2.Proper := by
  induction ms with
  | nil => exact iff_of_true trivial (List.forall_mem_nil _)
  | cons m ms ih => rw [List.forall_mem_cons, ProperMembers, ih, and_assoc]

/-! ## Cutting -/

/-- The text `s` is cut into the tokens `ts` and then those of `r`. -/
def Cuts (s : Bytes) (ts : List Token) (r : Bytes) : Prop := tokens? s = (tokens? r).map (ts ++ ·)

section

variable {s r q : Bytes} {ts us : List Token} {t : Token} {b : UInt8}

/-- Cutting goes on where it stopped. -/
theorem Cuts.trans (h : Cuts s ts r) (h' : Cuts r us q) : Cuts s (ts ++ us) q := by
  unfold Cuts at *
  rw [h, h', Option.map_map]
  refine congrArg (Option.map · (tokens? q)) (funext fun vs => ?_)
  exact (List.append_assoc ts us vs).symm

/-- One token in front of a text that is cut no farther. -/
theorem cuts_of_cut? (hb : isSpace b = false) (h : cut? b r = some (t, q)) :
    Cuts (b :: r) [t] q := by
  unfold Cuts
  rw [tokens?, if_neg (by simp [hb])]
  split
  next hnone =>
    rw [h] at hnone
    cases hnone
  next hsome =>
    rw [h] at hsome
    cases hsome
    rfl

/-- A mark is a token by itself. -/
theorem cuts_mark (hb : isSpace b = false) (h : mark? b = some t) : Cuts (b :: r) [t] r := by
  refine cuts_of_cut? hb ?_
  unfold cut?
  rw [h]

/-- A name is taken off in front of what follows. -/
theorem afterName?_append (name : String) (r : Bytes) :
    afterName? name (name.utf8 ++ r) = some r := by
  unfold afterName?
  rw [if_pos (List.isPrefixOf_iff_prefix.2 (List.prefix_append _ r)), List.drop_left]

theorem cuts_null : Cuts ("null".utf8 ++ r) [.null] r := by
  refine cuts_of_cut? (b := ascii 'n') (r := "ull".utf8 ++ r) (by decide) ?_
  show (afterName? "ull" ("ull".utf8 ++ r)).map _ = _
  rw [afterName?_append]
  rfl

theorem cuts_true : Cuts ("true".utf8 ++ r) [.bool true] r := by
  refine cuts_of_cut? (b := ascii 't') (r := "rue".utf8 ++ r) (by decide) ?_
  show (afterName? "rue" ("rue".utf8 ++ r)).map _ = _
  rw [afterName?_append]
  rfl

theorem cuts_false : Cuts ("false".utf8 ++ r) [.bool false] r := by
  refine cuts_of_cut? (b := ascii 'f') (r := "alse".utf8 ++ r) (by decide) ?_
  show (afterName? "alse" ("alse".utf8 ++ r)).map _ = _
  rw [afterName?_append]
  rfl

/-- A string is one token, with its pieces as they come back. -/
theorem cuts_writeString {ps : List Piece} (h : ∀ p ∈ ps, p.Proper) :
    Cuts (writeString ps ++ r) [.string (ps.map Piece.settled)] r := by
  unfold writeString
  rw [List.cons_append, List.cons_append, List.append_assoc, List.singleton_append]
  refine cuts_of_cut? (by decide) ?_
  show (stringBody? (ps.flatMap writePiece ++ ascii '"' :: r)).map _ = _
  rw [stringBody?_written h]
  rfl

/-- A byte at which a number starts is no other token and no blank. -/
theorem cut?_of_number (h : b = ascii '-' ∨ isDigit b = true) :
    isSpace b = false ∧
      ∀ r, cut? b r = (number? (b :: r)).map fun (n, r) => (.number n, r) := by
  have hall : ∀ n ∈ List.range 256, UInt8.ofNat n = ascii '-' ∨ isDigit (UInt8.ofNat n) = true →
      isSpace (UInt8.ofNat n) = false ∧ mark? (UInt8.ofNat n) = none ∧
        UInt8.ofNat n ≠ ascii '"' ∧ UInt8.ofNat n ≠ ascii 'n' ∧ UInt8.ofNat n ≠ ascii 't' ∧
        UInt8.ofNat n ≠ ascii 'f' := by decide +kernel
  have hb := hall b.toNat (List.mem_range.2 b.toNat_lt)
  rw [UInt8.ofNat_toNat] at hb
  obtain ⟨hspace, hmark, hquote, hnull, htrue, hfalse⟩ := hb h
  refine ⟨hspace, fun r => ?_⟩
  unfold cut?
  rw [hmark]
  simp only [if_neg hquote, if_neg hnull, if_neg htrue, if_neg hfalse]

/-- A number is one token where nothing behind it could belong to it. -/
theorem cuts_writeNumber {n : Number} (hn : n.Proper) (hr : Closes r) :
    Cuts (writeNumber n ++ r) [.number n] r := by
  have hread := number?_written hn hr
  obtain ⟨b, s, hwrite, hb⟩ := exists_writeNumber_eq hn
  obtain ⟨hspace, hcut⟩ := cut?_of_number hb
  rw [hwrite, List.cons_append] at hread ⊢
  refine cuts_of_cut? hspace ?_
  rw [hcut, hread]
  rfl

end

mutual

/-- **A value that is written is cut into its tokens.** -/
theorem cuts_write : ∀ {v : Json} {r : Bytes}, v.Proper → Closes r →
    Cuts (v.write ++ r) v.settled.tokens r
  | null, _, _, _ => cuts_null
  | bool true, _, _, _ => cuts_true
  | bool false, _, _, _ => cuts_false
  | number _, _, h, hr => cuts_writeNumber h hr
  | string _, _, h, _ => cuts_writeString h
  | array vs, r, h, _ => by
    rw [write, List.cons_append, List.cons_append, List.append_assoc, settled, tokens]
    have hopen : Cuts (ascii '[' :: (writeItems vs ++ ([ascii ']'] ++ r))) [.openArray] _ :=
      cuts_mark (by decide) rfl
    have hclose : Cuts (ascii ']' :: r) [.closeArray] r := cuts_mark (by decide) rfl
    have hinside := cuts_writeItems h (closes_cons (Or.inr (Or.inl rfl)) r)
    exact hopen.trans (hinside.trans hclose)
  | object ms, r, h, _ => by
    rw [write, List.cons_append, List.cons_append, List.append_assoc, settled, tokens]
    have hopen : Cuts (ascii '\x7b' :: (writeMembers ms ++ ([ascii '\x7d'] ++ r)))
        [.openObject] _ := cuts_mark (by decide) rfl
    have hclose : Cuts (ascii '\x7d' :: r) [.closeObject] r := cuts_mark (by decide) rfl
    have hinside := cuts_writeMembers h (closes_cons (Or.inr (Or.inr rfl)) r)
    exact hopen.trans (hinside.trans hclose)

/-- The items of an array, each with what follows it. -/
theorem cuts_writeItems : ∀ {vs : List Json} {r : Bytes}, ProperItems vs → Closes r →
    Cuts (writeItems vs ++ r) (itemTokens (settledItems vs)) r
  | [], r, _, _ => by
    show tokens? r = (tokens? r).map id
    rw [Option.map_id_fun, id]
  | [_], _, h, hr => cuts_write h.1 hr
  | v :: w :: vs, r, h, hr => by
    rw [writeItems, List.append_assoc, List.cons_append]
    have hcomma : Cuts (ascii ',' :: (writeItems (w :: vs) ++ r)) [.comma] _ :=
      cuts_mark (by decide) rfl
    have hfirst := cuts_write h.1 (closes_cons (Or.inl rfl) (writeItems (w :: vs) ++ r))
    exact hfirst.trans (hcomma.trans (cuts_writeItems h.2 hr))
    exact List.cons_ne_nil w vs

/-- The members of an object, likewise. -/
theorem cuts_writeMembers : ∀ {ms : List (List Piece × Json)} {r : Bytes}, ProperMembers ms →
    Closes r → Cuts (writeMembers ms ++ r) (memberTokens (settledMembers ms)) r
  | [], r, _, _ => by
    show tokens? r = (tokens? r).map id
    rw [Option.map_id_fun, id]
  | [(k, v)], r, h, hr => by
    rw [writeMembers, List.append_assoc, List.cons_append]
    have hcolon : Cuts (ascii ':' :: (write v ++ r)) [.colon] _ := cuts_mark (by decide) rfl
    exact (cuts_writeString h.1).trans (hcolon.trans (cuts_write h.2.1 hr))
  | (k, v) :: m :: ms, r, h, hr => by
    rw [writeMembers, List.append_assoc, List.cons_append, List.append_assoc, List.cons_append]
    have hcolon : Cuts (ascii ':' :: (write v ++ ascii ',' :: (writeMembers (m :: ms) ++ r)))
        [.colon] _ := cuts_mark (by decide) rfl
    have hcomma : Cuts (ascii ',' :: (writeMembers (m :: ms) ++ r)) [.comma] _ :=
      cuts_mark (by decide) rfl
    have hvalue := cuts_write h.2.1 (closes_cons (Or.inl rfl) (writeMembers (m :: ms) ++ r))
    exact (cuts_writeString h.1).trans
      (hcolon.trans (hvalue.trans (hcomma.trans (cuts_writeMembers h.2.2 hr))))
    exact List.cons_ne_nil m ms

end

/-! ## Putting together -/

section

variable {n : Nat} {t : Token} {r : List Token}

/-- The first token of a value closes nothing. -/
theorem exists_tokens_eq (v : Json) :
    ∃ t ts, v.tokens = t :: ts ∧ t ≠ .closeArray ∧ t ≠ .closeObject := by
  cases v <;> exact ⟨_, _, rfl, nofun, nofun⟩

/-- The items do not start with the end of the array, so it is not taken for an empty one. -/
theorem exists_itemTokens_eq {vs : List Json} (h : vs ≠ []) :
    ∃ t ts, itemTokens vs = t :: ts ∧ t ≠ .closeArray := by
  match vs with
  | [] => exact absurd rfl h
  | [v] =>
    obtain ⟨t, ts, htokens, hne, -⟩ := exists_tokens_eq v
    exact ⟨t, ts, htokens, hne⟩
  | v :: w :: vs =>
    obtain ⟨t, ts, htokens, hne, -⟩ := exists_tokens_eq v
    refine ⟨t, ts ++ .comma :: itemTokens (w :: vs), ?_, hne⟩
    rw [itemTokens_cons, htokens, List.cons_append]

/-- An array that is not empty is read by its items. -/
theorem value?_openArray (h : t ≠ .closeArray) :
    value? (n + 1) (.openArray :: t :: r) =
      (items? n (t :: r)).map fun (vs, r) => (array vs, r) := by
  rw [value?]
  intro r' heq
  exact h (List.cons.inj heq).1

/-- An object that is not empty is read by its members. -/
theorem value?_openObject (h : t ≠ .closeObject) :
    value? (n + 1) (.openObject :: t :: r) =
      (members? n (t :: r)).map fun (ms, r) => (object ms, r) := by
  rw [value?]
  intro r' heq
  exact h (List.cons.inj heq).1

end

mutual

/-- **The tokens of a value make up that value**, whatever tokens follow. -/
theorem value?_tokens : ∀ {v : Json} {n : Nat} {r : List Token}, 2 * v.tokens.length ≤ n + 2 →
    value? n (v.tokens ++ r) = some (v, r)
  | null, _, _, _ => by rw [tokens, List.singleton_append, value?]
  | bool _, _, _, _ => by rw [tokens, List.singleton_append, value?]
  | number _, _, _, _ => by rw [tokens, List.singleton_append, value?]
  | string _, _, _, _ => by rw [tokens, List.singleton_append, value?]
  | array [], _, _, _ => by
    rw [tokens, itemTokens, List.nil_append, List.cons_append, List.singleton_append, value?]
  | object [], _, _, _ => by
    rw [tokens, memberTokens, List.nil_append, List.cons_append, List.singleton_append, value?]
  | array (v :: vs), n, r, h => by
    obtain ⟨t, ts, htokens, hne⟩ := exists_itemTokens_eq (List.cons_ne_nil v vs)
    -- The brackets are two tokens more, so the inside may take a turn less.
    have hlength : 2 * (itemTokens (v :: vs)).length ≤ n := by
      rw [tokens, List.length_cons, List.length_append, List.length_singleton] at h
      omega
    rw [htokens, List.length_cons] at hlength
    obtain ⟨n, rfl⟩ : ∃ m, n = m + 1 := Nat.exists_eq_add_of_le' (by omega)
    rw [← List.length_cons, ← htokens] at hlength
    have hitems := items?_tokens (r := r) (List.cons_ne_nil v vs) hlength
    rw [htokens, List.cons_append] at hitems
    rw [tokens, List.cons_append, List.append_assoc, List.singleton_append, htokens,
      List.cons_append, value?_openArray hne, hitems]
    rfl
  | object (m :: ms), n, r, h => by
    obtain ⟨t, ts, htokens, hne⟩ : ∃ t ts, memberTokens (m :: ms) = t :: ts ∧ t ≠ .closeObject := by
      obtain ⟨k, v⟩ := m
      cases ms <;> exact ⟨_, _, rfl, nofun⟩
    have hlength : 2 * (memberTokens (m :: ms)).length ≤ n := by
      rw [tokens, List.length_cons, List.length_append, List.length_singleton] at h
      omega
    rw [htokens, List.length_cons] at hlength
    obtain ⟨n, rfl⟩ : ∃ m, n = m + 1 := Nat.exists_eq_add_of_le' (by omega)
    rw [← List.length_cons, ← htokens] at hlength
    have hmembers := members?_tokens (r := r) (List.cons_ne_nil m ms) hlength
    rw [htokens, List.cons_append] at hmembers
    rw [tokens, List.cons_append, List.append_assoc, List.singleton_append, htokens,
      List.cons_append, value?_openObject hne, hmembers]
    rfl

/-- Items are put together again, up to the end of the array. -/
theorem items?_tokens : ∀ {vs : List Json} {n : Nat} {r : List Token}, vs ≠ [] →
    2 * (itemTokens vs).length ≤ n + 1 →
    items? n (itemTokens vs ++ .closeArray :: r) = some (vs, r)
  | [], _, _, hne, _ => absurd rfl hne
  | [v], n, r, _, h => by
    rw [itemTokens] at h ⊢
    obtain ⟨t, ts, htokens, -⟩ := exists_tokens_eq v
    have hpositive : 1 ≤ v.tokens.length := by
      rw [htokens, List.length_cons]
      omega
    obtain ⟨n, rfl⟩ : ∃ m, n = m + 1 := Nat.exists_eq_add_of_le' (by omega)
    rw [items?, value?_tokens (by omega)]
  | v :: w :: vs, n, r, _, h => by
    rw [itemTokens_cons, List.length_append, List.length_cons] at h
    obtain ⟨t, ts, htokens, -⟩ := exists_tokens_eq v
    have hpositive : 1 ≤ v.tokens.length := by
      rw [htokens, List.length_cons]
      omega
    obtain ⟨n, rfl⟩ : ∃ m, n = m + 1 := Nat.exists_eq_add_of_le' (by omega)
    rw [itemTokens_cons, List.append_assoc, List.cons_append, items?, value?_tokens (by omega)]
    dsimp only
    rw [items?_tokens (List.cons_ne_nil w vs) (by omega)]
    rfl

/-- Members are put together again, up to the end of the object. -/
theorem members?_tokens : ∀ {ms : List (List Piece × Json)} {n : Nat} {r : List Token}, ms ≠ [] →
    2 * (memberTokens ms).length ≤ n + 1 →
    members? n (memberTokens ms ++ .closeObject :: r) = some (ms, r)
  | [], _, _, hne, _ => absurd rfl hne
  | [(k, v)], n, r, _, h => by
    rw [memberTokens, List.length_cons, List.length_cons] at h
    obtain ⟨n, rfl⟩ : ∃ m, n = m + 1 := Nat.exists_eq_add_of_le' (by omega)
    rw [memberTokens, List.cons_append, List.cons_append, members?, value?_tokens (by omega)]
  | (k, v) :: m :: ms, n, r, _, h => by
    rw [memberTokens_cons, List.length_cons, List.length_cons, List.length_append,
      List.length_cons] at h
    obtain ⟨n, rfl⟩ : ∃ m, n = m + 1 := Nat.exists_eq_add_of_le' (by omega)
    rw [memberTokens_cons, List.cons_append, List.cons_append, List.append_assoc,
      List.cons_append, members?, value?_tokens (by omega)]
    dsimp only
    rw [members?_tokens (List.cons_ne_nil m ms) (by omega)]
    rfl

end

/-- A text that is cut into the tokens of a value is that value. -/
theorem ofBytes?_of_cuts {s : Bytes} {v : Json} (h : Cuts s v.tokens []) : ofBytes? s = some v := by
  have hvalue := value?_tokens (v := v) (n := 2 * v.tokens.length) (r := []) (Nat.le_add_right _ 2)
  unfold Cuts at h
  rw [tokens?, Option.map_some, List.append_nil] at h
  rw [List.append_nil] at hvalue
  unfold ofBytes?
  rw [h, Option.bind_some, ofTokens?, hvalue]

/-- **A value that is written is read back**, up to the spelling of its strings. -/
theorem ofBytes?_write {v : Json} (h : v.Proper) : ofBytes? v.write = some v.settled := by
  have hcuts := cuts_write h closes_nil
  rw [List.append_nil] at hcuts
  exact ofBytes?_of_cuts hcuts

end Stratum.Json
