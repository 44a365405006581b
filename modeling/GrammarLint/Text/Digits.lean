import GrammarLint.Text.Basic

/-!
# Runs of digits

Digits between which single underscores may stand, as numbers are written in
settings and in literals. What counts as a digit depends on the base.
-/

namespace GrammarLint.Text

/-- The text after digits, each of which may have an underscore in front. -/
def skipDigits (isDigit : Char → Bool) : Text → Text
  | '_' :: c :: cs =>
    if isDigit c then skipDigits isDigit cs else '_' :: c :: cs
  | c :: cs => if isDigit c then skipDigits isDigit cs else c :: cs
  | [] => []

/-- The text after one or more digits, the first of which has no underscore in
front. -/
def digits? (isDigit : Char → Bool) : Text → Option Text
  | c :: cs => if isDigit c then some (skipDigits isDigit cs) else none
  | [] => none

/-- The text after an optional sign. -/
def skipSign : Text → Text
  | '+' :: cs => cs
  | '-' :: cs => cs
  | cs => cs

/-- The digits of base two. -/
def isBinary (c : Char) : Bool := c == '0' || c == '1'

/-- The digits of base eight. -/
def isOctal (c : Char) : Bool := '0' ≤ c && c ≤ '7'

end GrammarLint.Text
