import Stratum.Json.Tree

/-!
# The tokens of a JSON text

A JSON text is cut into tokens before its structure is looked at: brackets, commas and colons,
names, numbers and strings, with blanks between them. Two tokens of which neither is a bracket,
a comma or a colon never stand side by side in a JSON text, so cutting `01` into `0` and `1`
does not make a wrong text right.

> `length_cut?`: every token takes at least one byte, so cutting ends.
-/

namespace Stratum

open Text

namespace Json

/-- The smallest meaningful parts of a JSON text. -/
inductive Token where
  | openArray
  | closeArray
  | openObject
  | closeObject
  | comma
  | colon
  | null
  | bool (b : Bool)
  | number (n : Number)
  | string (s : List Piece)
deriving DecidableEq, Repr

/-- The byte of an ASCII character. -/
def ascii (c : Char) : UInt8 := c.toNat.toUInt8

/-- Space, tab, line feed and carriage return. -/
def isSpace (b : UInt8) : Bool := b == 0x20 || b == 0x09 || b == 0x0a || b == 0x0d

/-- The value of a hexadecimal digit. -/
def hexDigit? (b : UInt8) : Option Nat :=
  if 0x30 ≤ b && b ≤ 0x39 then some (b.toNat - 0x30)
  else if 0x41 ≤ b && b ≤ 0x46 then some (b.toNat - 0x37)
  else if 0x61 ≤ b && b ≤ 0x66 then some (b.toNat - 0x57)
  else none

/-- The UTF-16 unit with these four hexadecimal digits. -/
def hexUnit? (a b c d : UInt8) : Option Nat := do
  let a ← hexDigit? a
  let b ← hexDigit? b
  let c ← hexDigit? c
  let d ← hexDigit? d
  return ((a * 16 + b) * 16 + c) * 16 + d

/-- The byte that a backslash with this letter behind it stands for. -/
def escaped? (b : UInt8) : Option UInt8 :=
  [(ascii '"', ascii '"'), (ascii '\\', ascii '\\'), (ascii '/', ascii '/'), (ascii 'b', 0x08),
    (ascii 'f', 0x0c), (ascii 'n', 0x0a), (ascii 'r', 0x0d), (ascii 't', 0x09)].lookup b

/-- The pieces of a string up to its closing quote, and what follows it. Control characters
have to be escaped. -/
def stringBody? : Bytes → Option (List Piece × Bytes)
  | [] => none
  | b :: r =>
    if b = ascii '"' then some ([], r)
    else if b = ascii '\\' then
      match r with
      | [] => none
      | e :: r =>
        if e = ascii 'u' then
          match r with
          | a :: b :: c :: d :: r =>
            (hexUnit? a b c d).bind fun u =>
              (stringBody? r).map fun (ps, r) => (.unit u :: ps, r)
          | _ => none
        else
          (escaped? e).bind fun x => (stringBody? r).map fun (ps, r) => (.byte x :: ps, r)
    else if b < 0x20 then none
    else (stringBody? r).map fun (ps, r) => (.byte b :: ps, r)

/-- Bytes that are decimal digits. -/
def isDigit (b : UInt8) : Bool := 0x30 ≤ b && b ≤ 0x39

/-- The digits at the front, and what follows them. -/
def digits (s : Bytes) : List Char × Bytes :=
  ((s.takeWhile isDigit).map fun b => Char.ofNat b.toNat, s.dropWhile isDigit)

/-- One or more digits at the front; a number does not start with a zero and go on. -/
def whole? (s : Bytes) : Option (List Char × Bytes) :=
  match s with
  | [] => none
  | b :: r =>
    if b = ascii '0' then some (['0'], r)
    else if isDigit b then some (digits s) else none

/-- What follows a fraction, if there is one; `none` if it has no digits. -/
def fraction? (s : Bytes) : Option (Bool × Bytes) :=
  match s with
  | b :: r =>
    if b = ascii '.' then if (digits r).1.isEmpty then none else some (true, (digits r).2)
    else some (false, s)
  | [] => some (false, [])

/-- What follows a sign, if there is one. -/
def dropSign (s : Bytes) : Bytes :=
  match s with
  | b :: r => if b = ascii '+' || b = ascii '-' then r else s
  | [] => []

/-- What follows an exponent, if there is one; `none` if it has no digits. -/
def exponent? (s : Bytes) : Option (Bool × Bytes) :=
  match s with
  | b :: r =>
    if b = ascii 'e' || b = ascii 'E' then
      if (digits (dropSign r)).1.isEmpty then none else some (true, (digits (dropSign r)).2)
    else some (false, s)
  | [] => some (false, [])

/-- The number at the front, after its sign. -/
def unsigned? (negative : Bool) (s : Bytes) : Option (Number × Bytes) := do
  let (ds, s) ← whole? s
  let (f, s) ← fraction? s
  let (e, s) ← exponent? s
  return (⟨negative, ds, f || e⟩, s)

/-- The number at the front. -/
def number? (s : Bytes) : Option (Number × Bytes) :=
  match s with
  | b :: r => if b = ascii '-' then unsigned? true r else unsigned? false s
  | [] => none

/-- The text behind `name`, if it starts with that. -/
def afterName? (name : String) (s : Bytes) : Option Bytes :=
  if name.utf8.isPrefixOf s then some (s.drop name.utf8.length) else none

/-- The tokens that are a single byte. -/
def mark? (b : UInt8) : Option Token :=
  [(ascii '[', .openArray), (ascii ']', .closeArray), (ascii '\x7b', .openObject),
    (ascii '\x7d', .closeObject), (ascii ',', .comma), (ascii ':', .colon)].lookup b

/-- Cuts one token off `b :: r`. -/
def cut? (b : UInt8) (r : Bytes) : Option (Token × Bytes) :=
  match mark? b with
  | some t => some (t, r)
  | none =>
    if b = ascii '"' then (stringBody? r).map fun (ps, r) => (.string ps, r)
    else if b = ascii 'n' then (afterName? "ull" r).map fun r => (.null, r)
    else if b = ascii 't' then (afterName? "rue" r).map fun r => (.bool true, r)
    else if b = ascii 'f' then (afterName? "alse" r).map fun r => (.bool false, r)
    else (number? (b :: r)).map fun (n, r) => (.number n, r)

/-- A string takes its closing quote at least. -/
theorem length_stringBody? {s r : Bytes} {ps : List Piece} (h : stringBody? s = some (ps, r)) :
    r.length < s.length := by
  fun_induction stringBody? s generalizing ps r with
  | case1 => cases h
  | case2 => cases h; simp
  | case3 => cases h
  | case4 _ _ _ _ _ _ ih =>
    obtain ⟨u, -, h⟩ := Option.bind_eq_some_iff.1 h
    obtain ⟨⟨qs, q⟩, hq, hp⟩ := Option.map_eq_some_iff.1 h
    cases hp
    have := ih hq
    simp only [List.length_cons] at *
    omega
  | case5 => cases h
  | case6 _ _ _ _ ih =>
    obtain ⟨u, -, h⟩ := Option.bind_eq_some_iff.1 h
    obtain ⟨⟨qs, q⟩, hq, hp⟩ := Option.map_eq_some_iff.1 h
    cases hp
    have := ih hq
    simp only [List.length_cons] at *
    omega
  | case7 => cases h
  | case8 b t _ _ _ ih =>
    obtain ⟨⟨qs, q⟩, hq, hp⟩ := Option.map_eq_some_iff.1 h
    cases hp
    have := ih hq
    simp only [List.length_cons] at *
    omega

/-- Digits take nothing that is not there. -/
theorem length_digits (s : Bytes) : (digits s).2.length ≤ s.length :=
  (List.dropWhile_sublist _).length_le

/-- A whole part takes a digit at least. -/
theorem length_whole? {s r : Bytes} {ds : List Char} (h : whole? s = some (ds, r)) :
    r.length < s.length := by
  unfold whole? at h
  split at h
  · cases h
  · next b t =>
    split at h
    · cases h; simp
    · split at h
      · next hb =>
        have hr : r = (b :: t).dropWhile isDigit := congrArg Prod.snd (Option.some.inj h).symm
        rw [hr, List.dropWhile_cons_of_pos hb]
        exact Nat.lt_succ_of_le (List.dropWhile_sublist _).length_le
      · cases h

/-- A fraction may be missing. -/
theorem length_fraction? {s r : Bytes} {f : Bool} (h : fraction? s = some (f, r)) :
    r.length ≤ s.length := by
  unfold fraction? at h
  split at h
  · next b t =>
    split at h
    · split at h
      · cases h
      · cases h; exact Nat.le_succ_of_le (length_digits t)
    · cases h; exact Nat.le_refl _
  · cases h; exact Nat.le_refl _

/-- A sign may be missing. -/
theorem length_dropSign (s : Bytes) : (dropSign s).length ≤ s.length := by
  unfold dropSign
  split
  · split
    · exact Nat.le_succ _
    · exact Nat.le_refl _
  · exact Nat.le_refl _

/-- An exponent may be missing. -/
theorem length_exponent? {s r : Bytes} {f : Bool} (h : exponent? s = some (f, r)) :
    r.length ≤ s.length := by
  unfold exponent? at h
  split at h
  · next b t =>
    split at h
    · split at h
      · cases h
      · cases h
        exact Nat.le_succ_of_le (Nat.le_trans (length_digits _) (length_dropSign t))
    · cases h; exact Nat.le_refl _
  · cases h; exact Nat.le_refl _

/-- A number without sign takes a digit at least. -/
theorem length_unsigned? {neg : Bool} {s r : Bytes} {n : Number}
    (h : unsigned? neg s = some (n, r)) : r.length < s.length := by
  unfold unsigned? at h
  obtain ⟨⟨ds, s1⟩, h1, h⟩ := Option.bind_eq_some_iff.1 h
  obtain ⟨⟨f, s2⟩, h2, h⟩ := Option.bind_eq_some_iff.1 h
  obtain ⟨⟨e, s3⟩, h3, h⟩ := Option.bind_eq_some_iff.1 h
  cases h
  exact Nat.lt_of_le_of_lt (Nat.le_trans (length_exponent? h3) (length_fraction? h2))
    (length_whole? h1)

/-- A number takes a digit at least. -/
theorem length_number? {s r : Bytes} {n : Number} (h : number? s = some (n, r)) :
    r.length < s.length := by
  unfold number? at h
  split at h
  · split at h
    · exact Nat.lt_succ_of_lt (length_unsigned? h)
    · exact length_unsigned? h
  · cases h

/-- A name takes no more than there is. -/
theorem length_afterName? {name : String} {s r : Bytes} (h : afterName? name s = some r) :
    r.length ≤ s.length := by
  unfold afterName? at h
  split at h
  · cases h; exact (List.drop_sublist _ _).length_le
  · cases h

/-- Behind a first byte, a token takes no more than there is. -/
theorem length_cut? {b : UInt8} {r q : Bytes} {t : Token} (h : cut? b r = some (t, q)) :
    q.length ≤ r.length := by
  unfold cut? at h
  split at h
  · cases h; exact Nat.le_refl _
  · split at h
    · obtain ⟨⟨ps, p⟩, hp, he⟩ := Option.map_eq_some_iff.1 h
      cases he
      exact Nat.le_of_lt (length_stringBody? hp)
    · split at h
      · obtain ⟨p, hp, he⟩ := Option.map_eq_some_iff.1 h
        cases he; exact length_afterName? hp
      · split at h
        · obtain ⟨p, hp, he⟩ := Option.map_eq_some_iff.1 h
          cases he; exact length_afterName? hp
        · split at h
          · obtain ⟨p, hp, he⟩ := Option.map_eq_some_iff.1 h
            cases he; exact length_afterName? hp
          · obtain ⟨⟨n, p⟩, hp, he⟩ := Option.map_eq_some_iff.1 h
            cases he
            exact Nat.le_of_lt_succ (length_number? hp)

/-- The tokens of a text; `none` if something in it is no token. -/
def tokens? : Bytes → Option (List Token)
  | [] => some []
  | b :: r =>
    if isSpace b then tokens? r
    else
      match _h : cut? b r with
      | none => none
      | some (t, q) => (tokens? q).map (t :: ·)
termination_by s => s.length
decreasing_by
  · exact Nat.lt_succ_self _
  · exact Nat.lt_succ_of_le (length_cut? _h)

end Json

end Stratum
