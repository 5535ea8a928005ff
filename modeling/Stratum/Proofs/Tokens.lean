import Stratum.Json.Token

/-!
# Tokens in so many steps

The tokens of a JSON text are cut off as long as something is left of it. Every token takes a byte
at least, so as many steps as there are bytes are enough, and the same can be done by counting
steps. In this form it can be run inside a proof.

> `tokensWithin?_eq`: with as many steps as there are bytes, all tokens are found.
-/

namespace Stratum.Json

open Text

/-- The tokens of a text, as long as they are found in this many steps. -/
def tokensWithin? : Nat → Bytes → Option (List Token)
  | _, [] => some []
  | 0, _ :: _ => none
  | n + 1, b :: r =>
    if isSpace b then tokensWithin? n r
    else (cut? b r).bind fun (t, q) => (tokensWithin? n q).map (t :: ·)

/-- **As many steps as there are bytes are enough** to find all tokens. -/
theorem tokensWithin?_eq {n : Nat} {s : Bytes} (h : s.length ≤ n) :
    tokensWithin? n s = tokens? s := by
  induction n generalizing s with
  | zero =>
    have hs : s = [] := List.length_eq_zero_iff.1 (Nat.le_zero.1 h)
    rw [hs, tokens?, tokensWithin?]
  | succ n ih =>
    cases s with
    | nil => rw [tokens?, tokensWithin?]
    | cons b r =>
      have hr : r.length ≤ n := Nat.le_of_succ_le_succ h
      rw [tokens?, tokensWithin?]
      by_cases hb : isSpace b = true
      · rw [if_pos hb, if_pos hb, ih hr]
      rw [if_neg hb, if_neg hb]
      cases hcut : cut? b r with
      | none => rfl
      | some found =>
        -- What is left behind a token is shorter than before.
        obtain ⟨t, q⟩ := found
        show (tokensWithin? n q).map (t :: ·) = (tokens? q).map (t :: ·)
        rw [ih (Nat.le_trans (length_cut? hcut) hr)]

end Stratum.Json
