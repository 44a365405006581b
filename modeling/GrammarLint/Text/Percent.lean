import GrammarLint.Text.Hex
import GrammarLint.Text.Utf8

/-!
# Percent decoding

A percent sign and two hexadecimal digits stand for a byte; a percent sign
without them stands for itself. The bytes together are read as UTF-8, leniently.
-/

namespace GrammarLint.Percent

/-- The bytes of a text in which percent signs stand for bytes. -/
def bytes : Text → List UInt8
  | '%' :: a :: b :: cs =>
    if Text.isHex a && Text.isHex b then
      UInt8.ofNat (Text.hexNumber [a, b]) :: bytes cs
    else String.utf8EncodeChar '%' ++ bytes (a :: b :: cs)
  | c :: cs => String.utf8EncodeChar c ++ bytes cs
  | [] => []

/-- The text with its percent signs decoded. -/
def decode (t : Text) : Text := Utf8.decodeLossy (bytes t)

end GrammarLint.Percent
