import Stratum.Json.Writer
import Stratum.Proofs.Decoding
import Stratum.Proofs.Numerals

/-!
# Strings and numbers as they are written

A string is written piece by piece, and read the same way, whatever is written behind it. It comes
back with the pieces it had, but for control characters that have no letter of their own: these are
written as UTF-16 units, and so they come back as units. That makes no difference to the text. A
number comes back as it was spelled, if what follows it cannot go on with it.

> `stringBody?_written`: a string that is written is read back, up to its spelling.
> `stringText?_settled`: the spelling makes no difference to the text.
> `number?_written`: a number that is written is read back.
-/

namespace Stratum.Json

open Text

variable {rest : Bytes}

/-! ## Pieces -/

namespace Piece

/-- A unit has sixteen bits. -/
def Proper : Piece → Prop
  | byte _ => True
  | unit u => u < 65536

/-- Whether a piece is a control character that is written as a unit. -/
def isHidden : Piece → Bool
  | byte b => (escapeLetter? b).isNone && b < 0x20
  | unit _ => false

/-- The piece as which a piece is read when it has been written. -/
def settled (p : Piece) : Piece :=
  match p with
  | byte b => if p.isHidden then unit b.toNat else byte b
  | unit u => unit u

end Piece

theorem hexDigit?_hexByte {n : Nat} (h : n < 16) : hexDigit? (hexByte n) = some n := by
  have hall : ∀ n ∈ List.range 16, hexDigit? (hexByte n) = some n := by decide
  exact hall n (List.mem_range.2 h)

/-- Four hexadecimal digits are read back. -/
theorem hexUnit?_hexByte {u : Nat} (h : u < 65536) :
    hexUnit? (hexByte (u / 4096 % 16)) (hexByte (u / 256 % 16)) (hexByte (u / 16 % 16))
      (hexByte (u % 16)) = some u := by
  have hvalue : ((u / 4096 % 16 * 16 + u / 256 % 16) * 16 + u / 16 % 16) * 16 + u % 16 = u := by
    omega
  unfold hexUnit?
  rw [hexDigit?_hexByte (by omega), hexDigit?_hexByte (by omega), hexDigit?_hexByte (by omega),
    hexDigit?_hexByte (by omega)]
  exact congrArg some hvalue

/-- So is an escape that is written with them. -/
theorem stringBody?_writeUnit {u : Nat} (h : u < 65536) :
    stringBody? (writeUnit u ++ rest) =
      (stringBody? rest).map fun (ps, r) => (.unit u :: ps, r) := by
  unfold writeUnit
  simp only [List.cons_append, List.nil_append]
  rw [stringBody?, if_neg (by decide), if_pos rfl]
  simp only [if_true]
  rw [hexUnit?_hexByte h, Option.bind_some]

/-- A letter behind a backslash stands for the byte that it was written for. -/
theorem escaped?_of_escapeLetter? {b e : UInt8} (h : escapeLetter? b = some e) :
    escaped? e = some b ∧ e ≠ ascii 'u' := by
  have hall : [(ascii '"', ascii '"'), (ascii '\\', ascii '\\'), (0x08, ascii 'b'),
      (0x0c, ascii 'f'), (0x0a, ascii 'n'), (0x0d, ascii 'r'), (0x09, ascii 't')].all
      (fun p => escaped? p.2 == some p.1 && p.2 != ascii 'u') = true := by decide
  obtain ⟨front, back, hsplit, -⟩ := List.lookup_eq_some_iff.1 h
  have hb := List.all_eq_true.1 hall (b, e) (by rw [hsplit]; simp)
  rw [Bool.and_eq_true, beq_iff_eq, bne_iff_ne] at hb
  exact hb

/-- An escape of one letter is the byte that it stands for. -/
theorem stringBody?_letter {b e : UInt8} (h : escapeLetter? b = some e) :
    stringBody? (ascii '\\' :: e :: rest) =
      (stringBody? rest).map fun (ps, r) => (.byte b :: ps, r) := by
  obtain ⟨hescaped, hne⟩ := escaped?_of_escapeLetter? h
  rw [stringBody?.eq_def]
  simp only [if_neg (show ascii '\\' ≠ ascii '"' by decide), if_true, if_neg hne]
  rw [hescaped, Option.bind_some]

/-- A byte that needs no escape stands for itself. -/
theorem stringBody?_plain {b : UInt8} (h : escapeLetter? b = none) (hb : ¬b < 0x20) :
    stringBody? (b :: rest) = (stringBody? rest).map fun (ps, r) => (.byte b :: ps, r) := by
  -- The quote and the backslash have letters.
  have hquote : b ≠ ascii '"' := by
    rintro rfl
    exact absurd h (by decide)
  have hbackslash : b ≠ ascii '\\' := by
    rintro rfl
    exact absurd h (by decide)
  rw [stringBody?.eq_def]
  simp only [if_neg hquote, if_neg hbackslash, if_neg hb]

/-- **A piece is read back** as what it settles to, whichever of the three ways it is written. -/
theorem stringBody?_writePiece {p : Piece} (h : p.Proper) :
    stringBody? (writePiece p ++ rest) =
      (stringBody? rest).map fun (ps, r) => (p.settled :: ps, r) := by
  cases p with
  | unit u => exact stringBody?_writeUnit h
  | byte b =>
    rw [writePiece, Piece.settled, Piece.isHidden]
    cases hletter : escapeLetter? b with
    | some e => exact stringBody?_letter hletter
    | none =>
      by_cases hlow : b < 0x20
      · have hsmall : b.toNat < 32 := UInt8.lt_iff_toNat_lt.1 hlow
        rw [decide_eq_true hlow]
        simp only [if_pos hlow]
        exact stringBody?_writeUnit (by omega)
      · rw [decide_eq_false hlow]
        simp only [if_neg hlow]
        exact stringBody?_plain hletter hlow

/-- **A string that is written is read back**, whatever follows it. -/
theorem stringBody?_written {s : List Piece} (h : ∀ p ∈ s, p.Proper) :
    stringBody? (s.flatMap writePiece ++ ascii '"' :: rest) =
      some (s.map Piece.settled, rest) := by
  induction s with
  | nil =>
    rw [List.flatMap_nil, List.nil_append, stringBody?.eq_def]
    rfl
  | cons p s ih =>
    rw [List.flatMap_cons, List.append_assoc, stringBody?_writePiece (h p List.mem_cons_self),
      ih fun q hq => h q (List.mem_cons_of_mem p hq)]
    rfl

/-! ## Texts -/

/-- A control character is one byte. -/
theorem encode_control {b : UInt8} (h : b < 0x20) : Utf8.encode [Char.ofNat b.toNat] = [b] := by
  have hall : ∀ n ∈ List.range 32, Utf8.encode [Char.ofNat n] = [UInt8.ofNat n] := by decide +kernel
  have hb := hall b.toNat (List.mem_range.2 (UInt8.lt_iff_toNat_lt.1 h))
  rwa [UInt8.ofNat_toNat] at hb

/-- A piece that is settled is a byte or a unit as before, or a unit for a control character. -/
theorem Piece.settled_byte_cases (b : UInt8) :
    (byte b).settled = byte b ∨ b < 0x20 ∧ (byte b).settled = unit b.toNat := by
  unfold settled
  cases h : (byte b).isHidden with
  | false => exact Or.inl rfl
  | true => exact Or.inr ⟨of_decide_eq_true (Bool.and_eq_true_iff.1 h).2, rfl⟩

/-- A unit below the surrogates is a character by itself. -/
theorem bytes?_unit_of_small {u : Nat} (h : u < 0xd800) (s : List Piece) :
    bytes? (.unit u :: s) = (bytes? s).map (Utf8.encode [Char.ofNat u] ++ ·) := by
  have hhigh : isHighUnit u = false := by
    unfold isHighUnit
    rw [decide_eq_false (by omega), Bool.false_and]
  have hlow : isLowUnit u = false := by
    unfold isLowUnit
    rw [decide_eq_false (by omega), Bool.false_and]
  rw [bytes?.eq_def]
  simp only [hhigh, hlow, Bool.false_eq_true, if_false]

/-- A byte is the same byte, also when it comes back as a unit. -/
theorem bytes?_byte_settled (b : UInt8) (s : List Piece) :
    bytes? ((Piece.byte b).settled :: s) = (bytes? s).map (b :: ·) := by
  rcases Piece.settled_byte_cases b with h | ⟨hlow, h⟩
  · rw [h, bytes?]
  · have hsmall : b.toNat < 32 := UInt8.lt_iff_toNat_lt.1 hlow
    rw [h, bytes?_unit_of_small (by omega), encode_control hlow]
    rfl

/-- So settling changes none of the bytes of a text. -/
theorem bytes?_map_settled (s : List Piece) : bytes? (s.map Piece.settled) = bytes? s := by
  fun_induction bytes? s with
  | case1 => rfl
  | case2 b s ih => rw [List.map_cons, bytes?_byte_settled, ih]
  | case3 u hhigh v s hlow ih =>
    rw [List.map_cons, List.map_cons]
    show bytes? (.unit u :: .unit v :: s.map Piece.settled) = _
    rw [bytes?, if_pos hhigh, ih]
    simp only [hlow, if_true]
  | case4 u hhigh v s hlow =>
    rw [List.map_cons, List.map_cons]
    show bytes? (.unit u :: .unit v :: s.map Piece.settled) = _
    rw [bytes?, if_pos hhigh]
    simp only [hlow, Bool.false_eq_true, if_false]
  | case5 u s hhigh hother =>
    cases s with
    | nil =>
      show bytes? [.unit u] = none
      rw [bytes?.eq_def]
      simp only [if_pos hhigh]
    | cons p s =>
      cases p with
      | unit v => exact absurd rfl (hother v s)
      | byte b =>
        rw [List.map_cons, List.map_cons]
        show bytes? (.unit u :: (Piece.byte b).settled :: s.map Piece.settled) = none
        rcases Piece.settled_byte_cases b with h | ⟨hlow, h⟩
        · rw [h, bytes?.eq_def]
          simp only [if_pos hhigh]
        · have hsmall : b.toNat < 32 := UInt8.lt_iff_toNat_lt.1 hlow
          have hunit : isLowUnit b.toNat = false := by
            unfold isLowUnit
            rw [decide_eq_false (by omega), Bool.false_and]
          rw [h, bytes?, if_pos hhigh]
          simp only [hunit, Bool.false_eq_true, if_false]
  | case6 u s hhigh hlow =>
    rw [List.map_cons]
    show bytes? (.unit u :: s.map Piece.settled) = none
    rw [bytes?.eq_def]
    simp only [if_neg hhigh, hlow, if_true]
  | case7 u s hhigh hlow ih =>
    rw [List.map_cons]
    show bytes? (.unit u :: s.map Piece.settled) = _
    rw [bytes?.eq_def]
    simp only [if_neg hhigh, if_neg hlow, ih]

/-- **The spelling of a string makes no difference to its text.** -/
theorem stringText?_settled (s : List Piece) :
    stringText? (s.map Piece.settled) = stringText? s := by
  unfold stringText?
  rw [bytes?_map_settled]

/-- The pieces of a text are the text. -/
theorem stringText?_piecesOf (s : String) : stringText? (piecesOf s) = some s := by
  unfold stringText? piecesOf String.utf8
  rw [bytes?_map_byte, Option.bind_some, Utf8.decode?_encode, Option.map_some, String.ofList_toList]

theorem proper_of_mem_piecesOf {s : String} {p : Piece} (h : p ∈ piecesOf s) : p.Proper := by
  obtain ⟨b, -, rfl⟩ := List.mem_map.1 h
  trivial

/-! ## Numbers -/

/-- A number that can be written: a whole one, without zeros in front. -/
structure Number.Proper (n : Number) : Prop where
  scientific : n.scientific = false
  digits : Numeral.IsDigits n.whole
  zero : n.whole.head? = some '0' → n.whole = ['0']

/-- Nothing that could go on with a value: the end, a comma, or a closing bracket. -/
def Closes (rest : Bytes) : Prop :=
  ∀ b ∈ rest.head?, b = ascii ',' ∨ b = ascii ']' ∨ b = ascii '\x7d'

theorem closes_nil : Closes [] := fun b hb => by cases hb

/-- A comma or a closing bracket closes a number. -/
theorem closes_cons {b : UInt8} (h : b = ascii ',' ∨ b = ascii ']' ∨ b = ascii '\x7d')
    (r : Bytes) : Closes (b :: r) := by
  intro c hc
  obtain rfl := Option.some.inj hc
  exact h

/-- What can be seen of the digits one by one holds of all of them. -/
theorem forall_digit {P : Char → Prop} (h : ∀ n ∈ List.range 10, P (Char.ofNat (48 + n))) {c : Char}
    (hc : c.isDigit = true) : P c := by
  obtain ⟨hlow, hhigh⟩ := Bool.and_eq_true_iff.1 hc
  have hzero : 48 ≤ c.toNat := of_decide_eq_true hlow
  have hnine : c.toNat ≤ 57 := of_decide_eq_true hhigh
  have hp := h (c.toNat - 48) (List.mem_range.2 (by omega))
  rwa [Nat.add_sub_cancel' hzero, Char.ofNat_toNat] at hp

/-- A digit is one byte, and the byte of zero is no other digit's. -/
theorem ascii_digit {c : Char} (hc : c.isDigit = true) :
    isDigit (ascii c) = true ∧ Char.ofNat (ascii c).toNat = c ∧ (c ≠ '0' → ascii c ≠ ascii '0') :=
  forall_digit (P := fun c => isDigit (ascii c) = true ∧ Char.ofNat (ascii c).toNat = c ∧
    (c ≠ '0' → ascii c ≠ ascii '0')) (by decide) hc

/-- No digits follow what closes a number. -/
theorem digits_of_closes (h : Closes rest) :
    rest.takeWhile isDigit = [] ∧ rest.dropWhile isDigit = rest := by
  cases rest with
  | nil => exact ⟨rfl, rfl⟩
  | cons b r =>
    have hb : isDigit b = false := by rcases h b rfl with rfl | rfl | rfl <;> decide
    exact ⟨List.takeWhile_cons_of_neg (by simp [hb]), List.dropWhile_cons_of_neg (by simp [hb])⟩

/-- The digits are read up to there. -/
theorem digits_written {ds : List Char} (hds : ∀ c ∈ ds, c.isDigit = true) (hrest : Closes rest) :
    digits (ds.map ascii ++ rest) = (ds, rest) := by
  have hall : ∀ b ∈ ds.map ascii, isDigit b = true := by
    intro b hb
    obtain ⟨c, hc, rfl⟩ := List.mem_map.1 hb
    exact (ascii_digit (hds c hc)).1
  obtain ⟨htake, hdrop⟩ := digits_of_closes hrest
  unfold digits
  rw [List.takeWhile_append_of_pos hall, List.dropWhile_append_of_pos hall, htake, hdrop,
    List.append_nil, List.map_map]
  refine congrArg (·, rest) ?_
  exact (List.map_congr_left fun c hc => (ascii_digit (hds c hc)).2.1).trans (List.map_id ds)

/-- The whole part is read up to there, since it has no zero in front. -/
theorem whole?_written {n : Number} (hn : n.Proper) (hrest : Closes rest) :
    whole? (n.whole.map ascii ++ rest) = some (n.whole, rest) := by
  have hdigits := digits_written hn.digits.2 hrest
  cases hwhole : n.whole with
  | nil => exact absurd hwhole hn.digits.1
  | cons c ds =>
    rw [hwhole] at hdigits
    have hc : c.isDigit = true := hn.digits.2 c (by rw [hwhole]; exact List.mem_cons_self)
    by_cases hzero : c = '0'
    · subst hzero
      have hsingle := hn.zero (by rw [hwhole]; rfl)
      rw [hwhole] at hsingle
      obtain rfl : ds = [] := (List.cons.inj hsingle).2
      rfl
    · rw [List.map_cons, List.cons_append]
      unfold whole?
      simp only [if_neg ((ascii_digit hc).2.2 hzero), (ascii_digit hc).1, if_true]
      exact congrArg some hdigits

/-- There is no fraction. -/
theorem fraction?_of_closes (h : Closes rest) : fraction? rest = some (false, rest) := by
  cases rest with
  | nil => rfl
  | cons b r =>
    have hb : b ≠ ascii '.' := by rcases h b rfl with rfl | rfl | rfl <;> decide
    exact if_neg hb

/-- Nor is there an exponent. -/
theorem exponent?_of_closes (h : Closes rest) : exponent? rest = some (false, rest) := by
  cases rest with
  | nil => rfl
  | cons b r =>
    have hb : ¬(b = ascii 'e' || b = ascii 'E') = true := by
      rcases h b rfl with rfl | rfl | rfl <;> decide
    exact if_neg hb

/-- A number is read back, but for its sign. -/
theorem unsigned?_written {n : Number} (hn : n.Proper) (hrest : Closes rest) :
    unsigned? n.negative (n.whole.map ascii ++ rest) = some (n, rest) := by
  have hnumber : (⟨n.negative, n.whole, false || false⟩ : Number) = n := by
    rw [Bool.or_false, ← hn.scientific]
  unfold unsigned?
  simp only [whole?_written hn hrest, fraction?_of_closes hrest, exponent?_of_closes hrest,
    Option.bind_eq_bind, Option.bind_some]
  rw [hnumber]
  rfl

/-- The sign is written in front. -/
theorem writeNumber_of_negative {n : Number} (h : n.negative = true) :
    writeNumber n = ascii '-' :: n.whole.map ascii := by
  unfold writeNumber
  rw [h]
  rfl

theorem writeNumber_of_positive {n : Number} (h : n.negative = false) :
    writeNumber n = n.whole.map ascii := by
  unfold writeNumber
  rw [h]
  rfl

/-- A number that can be written starts with a digit. -/
theorem Number.Proper.exists_map_eq {n : Number} (hn : n.Proper) :
    ∃ b s, n.whole.map ascii = b :: s ∧ isDigit b = true := by
  cases hwhole : n.whole with
  | nil => exact absurd hwhole hn.digits.1
  | cons c ds =>
    have hc : c.isDigit = true := hn.digits.2 c (by rw [hwhole]; exact List.mem_cons_self)
    exact ⟨_, _, rfl, (ascii_digit hc).1⟩

/-- The first byte of a number is a digit or a minus sign. -/
theorem exists_writeNumber_eq {n : Number} (hn : n.Proper) :
    ∃ b s, writeNumber n = b :: s ∧ (b = ascii '-' ∨ isDigit b = true) := by
  cases hneg : n.negative with
  | true => exact ⟨_, _, writeNumber_of_negative hneg, Or.inl rfl⟩
  | false =>
    obtain ⟨b, s, hwhole, hb⟩ := hn.exists_map_eq
    exact ⟨b, s, (writeNumber_of_positive hneg).trans hwhole, Or.inr hb⟩

/-- **A number that is written is read back**, if what follows cannot go on with it. -/
theorem number?_written {n : Number} (hn : n.Proper) (hrest : Closes rest) :
    number? (writeNumber n ++ rest) = some (n, rest) := by
  have hread := unsigned?_written hn hrest
  cases hneg : n.negative with
  | true =>
    rw [hneg] at hread
    rw [writeNumber_of_negative hneg, List.cons_append, number?, if_pos rfl, hread]
  | false =>
    obtain ⟨b, s, hwhole, hb⟩ := hn.exists_map_eq
    have hminus : b ≠ ascii '-' := by
      rintro rfl
      exact absurd hb (by decide)
    rw [hneg, hwhole] at hread
    rw [writeNumber_of_positive hneg, hwhole, List.cons_append, number?, if_neg hminus]
    exact hread

end Stratum.Json
