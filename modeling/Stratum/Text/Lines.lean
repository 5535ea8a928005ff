import Stratum.Text.Utf8

/-!
# Lines of a byte string

Lines end at a line feed, before anything is decoded: no byte of a longer UTF-8
character is a line feed, and a damaged character cannot hide one. A line remembers
whether its line feed was there, because only then is a carriage return before it part
of the line end.

> `join_ofBytes`: the lines of a byte string, written one after the other, are that
> byte string.
-/

namespace Stratum.Text

/-- One line: its bytes up to the line feed, and whether the line feed was there. Only the
last line of a byte string can lack it. -/
structure Line where
  body : Bytes
  ended : Bool
deriving DecidableEq, Repr

namespace Line

/-- The line feed. -/
def feed : UInt8 := 10

/-- The carriage return. -/
def carriage : UInt8 := 13

/-- Puts one more byte in front of the first line. -/
def extend (b : UInt8) : List Line → List Line
  | [] => [⟨[b], false⟩]
  | l :: ls => { l with body := b :: l.body } :: ls

/-- The lines of a byte string; the empty byte string has none. -/
def ofBytes : Bytes → List Line
  | [] => []
  | b :: r => if b = feed then ⟨[], true⟩ :: ofBytes r else extend b (ofBytes r)

/-- The bytes of a line, its line feed included. -/
def bytes (l : Line) : Bytes := if l.ended then l.body ++ [feed] else l.body

/-- The bytes of a line whose line end is LF or CR LF, without that line end. A carriage
return at the end of a text without line feed stays. -/
def content (l : Line) : Bytes :=
  if l.ended && l.body.getLast? == some carriage then l.body.dropLast else l.body

/-- The bytes up to and including the first line feed. -/
def first (s : Bytes) : Bytes := ((ofBytes s).head?.map bytes).getD []

/-- A byte in front of lines is a byte in front of their text. -/
theorem join_extend (b : UInt8) (ls : List Line) :
    (extend b ls).flatMap bytes = b :: ls.flatMap bytes := by
  cases ls with
  | nil => rfl
  | cons l ls =>
    simp only [extend, List.flatMap_cons, bytes]
    split <;> simp

/-- Cutting into lines loses nothing. -/
theorem join_ofBytes (s : Bytes) : (ofBytes s).flatMap bytes = s := by
  induction s with
  | nil => rfl
  | cons b r ih =>
    unfold ofBytes
    split
    · next h => simp [bytes, ih, h]
    · rw [join_extend, ih]

end Line

end Stratum.Text
