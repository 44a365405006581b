import GrammarLint.Text.Hex
import GrammarLint.Text.Printable

/-!
# Quoted text

Two written forms of a text. The first stands in error messages: single quotes,
or double quotes around a text with single quotes only, and escapes for what
cannot be seen. The second is the string of a JSON report, in which only visible
ASCII stands for itself.
-/

namespace GrammarLint.Text

/-! ## In messages -/

/-- A character inside quotes of this kind. -/
def quotedChar (quote c : Char) : Text :=
  if c = quote || c = '\\' then ['\\', c]
  else if c = '\n' then ['\\', 'n']
  else if c = '\r' then ['\\', 'r']
  else if c = '\t' then ['\\', 't']
  else if isPrintable c then [c]
  else if c.toNat < 0x100 then '\\' :: 'x' :: hexDigits 2 c.toNat
  else if c.toNat < 0x10000 then '\\' :: 'u' :: hexDigits 4 c.toNat
  else '\\' :: 'U' :: hexDigits 8 c.toNat

/-- The quote for a text: double if it holds single quotes only. -/
def quoteFor (t : Text) : Char :=
  if t.elem '\'' && !t.elem '"' then '"' else '\''

/-- The text in quotes, as messages show it. -/
def quoted (t : Text) : Text :=
  let quote := quoteFor t
  quote :: t.flatMap (quotedChar quote) ++ [quote]

/-! ## In JSON -/

/-- A unit of sixteen bits as a JSON escape. -/
def jsonUnit (n : Nat) : Text := '\\' :: 'u' :: hexDigits 4 n

/-- A character of a JSON string. Code points past sixteen bits take two
units. -/
def jsonChar (c : Char) : Text :=
  if c = '"' || c = '\\' then ['\\', c]
  else if c = '\n' then ['\\', 'n']
  else if c = '\r' then ['\\', 'r']
  else if c = '\t' then ['\\', 't']
  else if c = '\x08' then ['\\', 'b']
  else if c = '\x0c' then ['\\', 'f']
  else if ' ' ≤ c && c ≤ '~' then [c]
  else if c.toNat < 0x10000 then jsonUnit c.toNat
  else
    let n := c.toNat - 0x10000
    jsonUnit (0xd800 + n / 0x400) ++ jsonUnit (0xdc00 + n % 0x400)

/-- The text as a JSON string. -/
def jsonString (t : Text) : Text := '"' :: t.flatMap jsonChar ++ ['"']

end GrammarLint.Text
