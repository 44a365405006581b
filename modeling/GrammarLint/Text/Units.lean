import GrammarLint.Text.Basic

/-!
# Units of positions

Editors count the columns of a line in units of an encoding: bytes of UTF-8,
units of UTF-16, or code points.
-/

namespace GrammarLint

/-- The unit that columns are counted in. -/
inductive PositionUnit where
  | utf8
  | utf16
  | utf32
  deriving DecidableEq, Repr, Inhabited

namespace PositionUnit

/-- How many units a character takes. -/
def width : PositionUnit → Char → Nat
  | utf8, c => c.utf8Size
  | utf16, c => if c.toNat < 0x10000 then 1 else 2
  | utf32, _ => 1

/-- How many units a text takes. -/
def size (unit : PositionUnit) : Text → Nat
  | [] => 0
  | c :: cs => unit.width c + unit.size cs

/-- The column in units of a column in code points; one past the end
counts the whole line. -/
def column (unit : PositionUnit) (line : Text) (column : Nat) : Nat :=
  unit.size (line.take column)

end PositionUnit

end GrammarLint
