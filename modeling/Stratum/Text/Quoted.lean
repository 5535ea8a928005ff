import Stratum.Text.Hidden

/-!
# Quoted text

Names and values that come from outside are shown between double quotes in messages, so
that blanks, line ends and invisible characters can be told apart: the quote and the
backslash are escaped, the common controls have letters, and whatever has no visible form
of its own is written as its code point in hexadecimal. The apostrophe stays as it is.

> `quote_plain`: a text of ASCII letters and digits is shown unchanged between the quotes.
-/

namespace Stratum.Text.Quoted

/-- The code point of a character in lower-case hexadecimal, as an escape. -/
def codePoint (c : Char) : List Char :=
  ['\\', 'u', '\x7b'] ++ Nat.toDigits 16 c.toNat ++ ['\x7d']

/-- How one character is shown between quotes. -/
def escape (c : Char) : List Char :=
  if c = '\x00' then ['\\', '0']
  else if c = '\t' then ['\\', 't']
  else if c = '\r' then ['\\', 'r']
  else if c = '\n' then ['\\', 'n']
  else if c = '\\' then ['\\', '\\']
  else if c = '"' then ['\\', '"']
  else if isHidden c then codePoint c
  else [c]

/-- The text between quotes. -/
def quote (s : List Char) : List Char := '"' :: s.flatMap escape ++ ['"']

/-- The ranges that hold the letters and digits of ASCII. -/
theorem ranges_of_isAlphanum {c : Char} (h : c.isAlphanum = true) :
    (65 ≤ c.toNat ∧ c.toNat ≤ 90) ∨ (97 ≤ c.toNat ∧ c.toNat ≤ 122) ∨
      (48 ≤ c.toNat ∧ c.toNat ≤ 57) := by
  rcases Bool.or_eq_true_iff.1 h with h | h
  · rcases Bool.or_eq_true_iff.1 h with h | h
    · exact Or.inl (of_decide_eq_true h)
    · have ⟨low, high⟩ := Bool.and_eq_true_iff.1 h
      exact Or.inr (Or.inl ⟨of_decide_eq_true low, of_decide_eq_true high⟩)
  · have ⟨low, high⟩ := Bool.and_eq_true_iff.1 h
    exact Or.inr (Or.inr ⟨of_decide_eq_true low, of_decide_eq_true high⟩)

/-- A letter or digit stands for itself. -/
theorem escape_of_isAlphanum {c : Char} (h : c.isAlphanum = true) : escape c = [c] := by
  have hr := ranges_of_isAlphanum h
  have hne : ∀ d : Char, d.toNat < 48 ∨ d.toNat = 92 → c ≠ d := by
    intro d hd hcd; subst hcd; omega
  unfold escape
  rw [if_neg (hne _ (by decide)), if_neg (hne _ (by decide)), if_neg (hne _ (by decide)),
    if_neg (hne _ (by decide)), if_neg (hne _ (by decide)), if_neg (hne _ (by decide)),
    isHidden_eq_false_of_ascii (by omega) (by omega)]
  rfl

/-- A text of letters and digits only gets its quotes. -/
theorem quote_plain {s : List Char} (h : ∀ c ∈ s, c.isAlphanum = true) :
    quote s = '"' :: s ++ ['"'] := by
  have : s.flatMap escape = s := by
    induction s with
    | nil => rfl
    | cons c r ih =>
      rw [List.flatMap_cons, escape_of_isAlphanum (h c List.mem_cons_self),
        ih (fun d hd => h d (List.mem_cons_of_mem _ hd))]
      rfl
  rw [quote, this]

end Stratum.Text.Quoted

/-- The text between quotes, as messages show it. -/
def String.quoted (s : String) : String := String.ofList (Stratum.Text.Quoted.quote s.toList)
