import Stratum.Text.Hex
import Stratum.Text.Utf8

/-!
# Percent-encoding

In a URL a byte that must not stand for itself is written as a percent sign and two hexadecimal
digits. Which bytes those are depends on the part of the URL; bytes above 127 always are.

> `encode_of_plain`: a text of plain ASCII characters is left as it is.
-/

namespace Stratum.Percent

open Text

/-- A set of characters that must be encoded. -/
abbrev EncodeSet := Char → Bool

/-- Controls and everything that is not ASCII. -/
def controls : EncodeSet := fun c => c.toNat < 0x20 || 0x7f ≤ c.toNat

/-- What is encoded in a fragment. -/
def fragment : EncodeSet := fun c => controls c || [' ', '"', '<', '>', '`'].contains c

/-- What is encoded in a query. -/
def query : EncodeSet := fun c => controls c || [' ', '"', '#', '<', '>'].contains c

/-- What is encoded in the query of a special URL. -/
def specialQuery : EncodeSet := fun c => query c || c == '\''

/-- What is encoded in a path. -/
def path : EncodeSet := fun c => fragment c || ['#', '?', '\x7b', '\x7d'].contains c

/-- What is encoded in a user name or a password. -/
def userInfo : EncodeSet := fun c =>
  path c || ['/', ':', ';', '=', '@', '[', '\\', ']', '^', '|'].contains c

/-- The upper-case hexadecimal digit of a number below sixteen. -/
def hexDigit (n : Nat) : Char := (Nat.digitChar n).toUpper

/-- A byte as a percent sign and two digits. -/
def byte (b : UInt8) : List Char := ['%', hexDigit (b.toNat / 16), hexDigit (b.toNat % 16)]

/-- A text with the characters of `set` encoded, byte by byte. -/
def encode (set : EncodeSet) (s : List Char) : List Char :=
  s.flatMap fun c => if set c then (String.utf8EncodeChar c).flatMap byte else [c]

/-- The bytes of a text with its encoded bytes decoded; a percent sign without two digits stands
for itself. -/
def decode : List Char → Bytes
  | '%' :: a :: b :: r =>
    match hexValue? a, hexValue? b with
    | some x, some y => (x * 16 + y).toUInt8 :: decode r
    | _, _ => 0x25 :: decode (a :: b :: r)
  | c :: r => String.utf8EncodeChar c ++ decode r
  | [] => []

/-- A text without characters of the set is left as it is. -/
theorem encode_of_plain {set : EncodeSet} {s : List Char} (h : ∀ c ∈ s, set c = false) :
    encode set s = s := by
  induction s with
  | nil => rfl
  | cons c r ih =>
    have hr := ih fun d hd => h d (List.mem_cons_of_mem _ hd)
    unfold encode at *
    rw [List.flatMap_cons, hr, h c List.mem_cons_self]
    rfl

end Stratum.Percent
