import Stratum.Text.Numeral
import Stratum.Text.Utf8

/-!
# JSON as it is written

A JSON text is read into a tree that still says how its strings and numbers were spelled. A
part of an answer that nobody asks for may hold anything that is well-formed, also a string
that is no text and a number that fits nowhere; only what is asked for is given a meaning, by
`text?`, `integer?` and their like.

> `bytes?_map_byte`: bytes that are written as they are stand for themselves.
> `integer?_ofInteger`: an integer is read back.
-/

namespace Stratum

open Text

namespace Json

/-- A piece of a string: a byte, or a UTF-16 unit written as an escape. -/
inductive Piece where
  | byte (b : UInt8)
  | unit (u : Nat)
deriving DecidableEq, Repr

/-- A number as it was spelled. -/
structure Number where
  negative : Bool
  whole : List Char
  /-- Whether there is a fraction or an exponent. -/
  scientific : Bool
deriving DecidableEq, Repr

end Json

/-- A JSON value. -/
inductive Json where
  | null
  | bool (b : Bool)
  | number (n : Json.Number)
  | string (s : List Json.Piece)
  | array (items : List Json)
  | object (members : List (List Json.Piece × Json))

namespace Json

instance : Inhabited Json := ⟨null⟩

/-! ## The meaning of strings and numbers -/

/-- Units that start a pair. -/
def isHighUnit (u : Nat) : Bool := 0xd800 ≤ u && u < 0xdc00

/-- Units that end a pair. -/
def isLowUnit (u : Nat) : Bool := 0xdc00 ≤ u && u < 0xe000

/-- The character of a pair. -/
def pairChar (hi lo : Nat) : Char := Char.ofNat (0x10000 + (hi - 0xd800) * 0x400 + (lo - 0xdc00))

/-- The bytes of a string; an escaped unit without its partner has none. -/
def bytes? : List Piece → Option Bytes
  | [] => some []
  | .byte b :: r => (bytes? r).map (b :: ·)
  | .unit u :: r =>
    if isHighUnit u then
      match r with
      | .unit v :: r =>
        if isLowUnit v then (bytes? r).map (Utf8.encode [pairChar u v] ++ ·) else none
      | _ => none
    else if isLowUnit u then none
    else (bytes? r).map (Utf8.encode [Char.ofNat u] ++ ·)

/-- The text that a string stands for. -/
def stringText? (s : List Piece) : Option String :=
  ((bytes? s).bind Utf8.decode?).map String.ofList

/-- The text of a value that is a string. -/
def text? : Json → Option String
  | string s => stringText? s
  | _ => none

/-- The truth value of a value that is one. -/
def bool? : Json → Option Bool
  | bool b => some b
  | _ => none

/-- The value of a number without fraction and exponent; a negative zero is no integer. -/
def integer? : Json → Option Int
  | number n =>
    let v := Numeral.value n.whole
    if n.scientific || (n.negative && v == 0) then none
    else some (if n.negative then -(v : Int) else v)
  | _ => none

/-- An integer from 0 to 2⁶⁴ - 1. -/
def uint64? (v : Json) : Option UInt64 :=
  v.integer?.bind fun z =>
    if 0 ≤ z ∧ z.toNat < UInt64.size then some (UInt64.ofNat z.toNat) else none

/-- An integer from -2⁶³ to 2⁶³ - 1. -/
def int64? (v : Json) : Option Int64 :=
  v.integer?.bind fun z =>
    if Int64.minValue.toInt ≤ z ∧ z ≤ Int64.maxValue.toInt then some (Int64.ofInt z) else none

/-- A value that may be `null`, read by `reader` if it is not. -/
def nullable {α : Type} (reader : Json → Option α) : Json → Option (Option α)
  | null => some none
  | v => (reader v).map some

/-! ## Values for texts and numbers -/

/-- The pieces of a text. -/
def piecesOf (s : String) : List Piece := s.utf8.map .byte

/-- A text as a value. -/
def ofText (s : String) : Json := string (piecesOf s)

/-- An integer as a value. -/
def ofInteger (z : Int) : Json := number ⟨z < 0, Numeral.digits z.natAbs, false⟩

/-- A value that may be missing, `null` if it is. -/
def ofOption {α : Type} (write : α → Json) : Option α → Json
  | none => null
  | some a => write a

/-- A record, its members in the given order. -/
def ofMembers (ms : List (String × Json)) : Json :=
  object (ms.map fun (k, v) => (piecesOf k, v))

/-- Bytes that stand for themselves are given back. -/
theorem bytes?_map_byte (s : Bytes) : bytes? (s.map .byte) = some s := by
  induction s with
  | nil => rfl
  | cons b r ih => simp [bytes?, ih]

/-- An integer that is written is read back. -/
theorem integer?_ofInteger (z : Int) : (ofInteger z).integer? = some z := by
  unfold ofInteger integer?
  dsimp only
  rw [Numeral.value_digits]
  rcases Int.lt_or_le z 0 with h | h
  · have h0 : (z.natAbs == 0) = false := beq_false_of_ne (by omega)
    have back : -(z.natAbs : Int) = z := by omega
    rw [decide_eq_true h, h0, if_pos rfl, back]
    rfl
  · rw [decide_eq_false (Int.not_lt.2 h), Int.natAbs_of_nonneg h]
    rfl

end Json

end Stratum
