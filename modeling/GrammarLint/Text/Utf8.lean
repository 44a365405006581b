import GrammarLint.Text.Hex

/-!
# UTF-8

Bytes are read strictly. A fault names the bytes that cannot be read: as
many as were a proper beginning of a character, so the byte that breaks
the rule is not one of them unless it stands first. The same division of
the bytes serves a lenient reading, which puts the replacement character
in the place of every fault.
-/

namespace GrammarLint.Utf8

/-- Why bytes are no character. -/
inductive Reason where
  | invalidStart
  | invalidContinuation
  | endOfData
  deriving DecidableEq, Repr, Inhabited

namespace Reason

/-- The reason in words. -/
def message : Reason → String
  | invalidStart => "invalid start byte"
  | invalidContinuation => "invalid continuation byte"
  | endOfData => "unexpected end of data"

end Reason

/-- Where bytes are no character: the position of the first, the byte there, and
how many. -/
structure Fault where
  position : Nat
  byte : UInt8
  size : Nat
  reason : Reason
  deriving DecidableEq, Repr, Inhabited

namespace Fault

/-- The fault in words. -/
def message (f : Fault) : String :=
  let bytes :=
    if f.size = 1 then
      "byte 0x" ++ String.ofList (Text.hexDigits 2 f.byte.toNat) ++
        " in position "
        ++ toString f.position
    else
      "bytes in position " ++ toString f.position ++ "-" ++
        toString (f.position + f.size - 1)
  "'utf-8' codec can't decode " ++ bytes ++ ": " ++ f.reason.message

end Fault

/-- The bytes that go on with a character. -/
def isTail (b : UInt8) : Bool := 0x80 ≤ b && b ≤ 0xbf

/-- The second bytes that may follow a first byte: some first bytes refuse a
part of the tails, which would spell a character too long, a surrogate, or a
number past the last code point. -/
def isSecond (a b : UInt8) : Bool :=
  isTail b && !(a == 0xe0 && b < 0xa0) && !(a == 0xed && 0xa0 ≤ b) &&
    !(a == 0xf0 && b < 0x90)
    && !(a == 0xf4 && 0x90 ≤ b)

/-- The six low bits of a byte. -/
def low (b : UInt8) : Nat := b.toNat % 64

/-- The first character of non-empty bytes and how many bytes it takes, or how
many bytes are wrong and why. -/
def next (a : UInt8) (rest : List UInt8) : Except (Nat × Reason) (Char × Nat) :=
  if a < 0x80 then .ok (Char.ofNat a.toNat, 1)
  else if a < 0xc2 then .error (1, .invalidStart)
  else if a < 0xe0 then
    match rest with
    | [] => .error (1, .endOfData)
    | b :: _ =>
      if isSecond a b then .ok (Char.ofNat ((a.toNat - 0xc0) * 64 + low b), 2)
      else .error (1, .invalidContinuation)
  else if a < 0xf0 then
    match rest with
    | [] => .error (1, .endOfData)
    | b :: rest =>
      if !isSecond a b then .error (1, .invalidContinuation)
      else
        match rest with
        | [] => .error (2, .endOfData)
        | c :: _ =>
          if isTail c then
            .ok (Char.ofNat ((a.toNat - 0xe0) * 4096 + low b * 64 + low c), 3)
          else .error (2, .invalidContinuation)
  else if a < 0xf5 then
    match rest with
    | [] => .error (1, .endOfData)
    | b :: rest =>
      if !isSecond a b then .error (1, .invalidContinuation)
      else
        match rest with
        | [] => .error (2, .endOfData)
        | c :: rest =>
          if !isTail c then .error (2, .invalidContinuation)
          else
            match rest with
            | [] => .error (3, .endOfData)
            | d :: _ =>
              if isTail d then
                .ok (Char.ofNat ((a.toNat - 0xf0) * 262144 + low b * 4096 +
                  low c * 64 + low d), 4)
              else .error (3, .invalidContinuation)
  else .error (1, .invalidStart)

/-- Reads bytes from a position on; `skip` bytes still belong to the last
character. -/
def decodeFrom : Nat → Nat → List UInt8 → Except Fault Text
  | _, _, [] => .ok []
  | skip + 1, position, _ :: bytes => decodeFrom skip (position + 1) bytes
  | 0, position, a :: bytes =>
    match next a bytes with
    | .ok (c, size) => (decodeFrom (size - 1) (position + 1) bytes).map (c :: ·)
    | .error (size, reason) => .error ⟨position, a, size, reason⟩

/-- Reads bytes as UTF-8. -/
def decode (bytes : List UInt8) : Except Fault Text := decodeFrom 0 0 bytes

/-- Reads bytes leniently; `skip` bytes are already accounted for. -/
def decodeLossyFrom : Nat → List UInt8 → Text
  | _, [] => []
  | skip + 1, _ :: bytes => decodeLossyFrom skip bytes
  | 0, a :: bytes =>
    match next a bytes with
    | .ok (c, size) => c :: decodeLossyFrom (size - 1) bytes
    | .error (size, _) => '�' :: decodeLossyFrom (size - 1) bytes

/-- Reads bytes as UTF-8 with the replacement character for every fault. -/
def decodeLossy (bytes : List UInt8) : Text := decodeLossyFrom 0 bytes

/-- Writes a text as UTF-8. -/
def encode (text : Text) : List UInt8 := text.flatMap String.utf8EncodeChar

end GrammarLint.Utf8
