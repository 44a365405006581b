import GrammarLint.Text.Basic

/-!
# Ranges of code points

A property of characters is kept as a table: the stretches of code points that
have it, each with its first and its last, in ascending order.
-/

namespace GrammarLint.Text

/-- Stretches of code points, both ends included. -/
abbrev Ranges := List (Nat × Nat)

/-- The character lies in one of the stretches. -/
def within (ranges : Ranges) (c : Char) : Bool :=
  ranges.any fun (first, last) => decide (first ≤ c.toNat ∧ c.toNat ≤ last)

end GrammarLint.Text
