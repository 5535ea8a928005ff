/-!
# Hexadecimal digits

> `hexValue?_digitChar`: a digit that is written is read back.
-/

namespace Stratum.Text

/-- The value of a hexadecimal digit in either case. -/
def hexValue? (c : Char) : Option Nat :=
  if c.isDigit then some (c.toNat - 48)
  else if 'a' ≤ c ∧ c ≤ 'f' then some (c.toNat - 87)
  else if 'A' ≤ c ∧ c ≤ 'F' then some (c.toNat - 55)
  else none

/-- The value of digits in a base up to sixteen. -/
def baseValue? (base : Nat) (ds : List Char) : Option Nat :=
  ds.foldlM (fun acc d =>
    (hexValue? d).bind fun v => if v < base then some (acc * base + v) else none) 0

/-- A digit that is written is read back. -/
theorem hexValue?_digitChar {n : Nat} (h : n < 16) : hexValue? (Nat.digitChar n) = some n := by
  have all : ∀ m ∈ List.range 16, hexValue? (Nat.digitChar m) = some m := by decide
  exact all n (List.mem_range.2 h)

end Stratum.Text
