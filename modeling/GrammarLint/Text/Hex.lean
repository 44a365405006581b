import GrammarLint.Text.Basic

/-!
# Hexadecimal digits
-/

namespace GrammarLint.Text

/-- A hexadecimal digit, in either case. -/
def isHex (c : Char) : Bool :=
  c.isDigit || ('a' ≤ c && c ≤ 'f') || ('A' ≤ c && c ≤ 'F')

/-- The number a hexadecimal digit stands for. -/
def hexValue (c : Char) : Nat :=
  if c.isDigit then c.toNat - '0'.toNat
  else if c.isLower then c.toNat - 'a'.toNat + 10
  else c.toNat - 'A'.toNat + 10

/-- The number that digits stand for. -/
def hexNumber (digits : Text) : Nat :=
  digits.foldl (fun n c => n * 16 + hexValue c) 0

/-- The last `size` digits of a number, in lower case. -/
def hexDigits : Nat → Nat → Text
  | 0, _ => []
  | size + 1, n => hexDigits size (n / 16) ++ [Nat.digitChar (n % 16)]

end GrammarLint.Text
