import Stratum.Json.Token

/-!
# Writing JSON

A value as JSON without blanks. In a string the quote, the backslash and the control
characters are escaped, with a letter where there is one; everything else stands for itself.

> `write_ofText`: a text is written between quotes.
-/

namespace Stratum

open Text

namespace Json

/-- The lower-case hexadecimal digit of a number below sixteen. -/
def hexByte (n : Nat) : UInt8 := ascii (Nat.digitChar n)

/-- A UTF-16 unit as an escape. -/
def writeUnit (u : Nat) : Bytes :=
  [ascii '\\', ascii 'u', hexByte (u / 4096 % 16), hexByte (u / 256 % 16), hexByte (u / 16 % 16),
    hexByte (u % 16)]

/-- The letters of the bytes that have an escape of their own. -/
def escapeLetter? (b : UInt8) : Option UInt8 :=
  [(ascii '"', ascii '"'), (ascii '\\', ascii '\\'), (0x08, ascii 'b'), (0x0c, ascii 'f'),
    (0x0a, ascii 'n'), (0x0d, ascii 'r'), (0x09, ascii 't')].lookup b

/-- A piece of a string as it is written. -/
def writePiece : Piece → Bytes
  | .byte b =>
    match escapeLetter? b with
    | some e => [ascii '\\', e]
    | none => if b < 0x20 then writeUnit b.toNat else [b]
  | .unit u => writeUnit u

/-- A string between quotes. -/
def writeString (s : List Piece) : Bytes := ascii '"' :: s.flatMap writePiece ++ [ascii '"']

/-- A number. -/
def writeNumber (n : Number) : Bytes :=
  (if n.negative then [ascii '-'] else []) ++ n.whole.map ascii

mutual

/-- A value. -/
def write : Json → Bytes
  | null => "null".utf8
  | bool true => "true".utf8
  | bool false => "false".utf8
  | number n => writeNumber n
  | string s => writeString s
  | array vs => ascii '[' :: writeItems vs ++ [ascii ']']
  | object ms => ascii '\x7b' :: writeMembers ms ++ [ascii '\x7d']

/-- Values with commas between them. -/
def writeItems : List Json → Bytes
  | [] => []
  | [v] => write v
  | v :: vs => write v ++ ascii ',' :: writeItems vs

/-- Members with commas between them. -/
def writeMembers : List (List Piece × Json) → Bytes
  | [] => []
  | [(k, v)] => writeString k ++ ascii ':' :: write v
  | (k, v) :: ms => writeString k ++ ascii ':' :: write v ++ ascii ',' :: writeMembers ms

end

/-- A text is written as the string of its pieces. -/
theorem write_ofText (s : String) : (ofText s).write = writeString (piecesOf s) := by
  rw [ofText, write]

end Json

end Stratum
