import GrammarLint.Text.Hex
import GrammarLint.Text.Integer

/-!
# Authorities of addresses

The authority of an address is a host, if need be with a user in front of it
and a number behind it. A host in brackets is an address of the internet
protocol, version 6 or later, and the brackets stand around the whole host.
No character may turn into one of the delimiters of an address when it is
written in its compatible form.
-/

namespace GrammarLint.Authority

/-! ## Addresses of version 6 -/

/-- One to four hexadecimal digits. -/
def isGroup (t : Text) : Bool := !t.isEmpty && t.length ≤ 4 && t.all Text.isHex

/-- A decimal number up to 255, without zeros in front. -/
def isOctet (t : Text) : Bool :=
  t.length ≤ 3 && match Integer.bareDigits? t with
    | some n => decide (n ≤ 255)
    | none => false

/-- Four octets with dots between them. -/
def isDotted (t : Text) : Bool :=
  (Text.splitOn '.' t).length == 4 && (Text.splitOn '.' t).all isOctet

/-- The groups of an address. A last part with dots stands for two groups. -/
def groupsOf (parts : List Text) : Option (List Text) :=
  match parts.getLast? with
  | some last =>
    if last.elem '.' then
      if isDotted last then some (parts.dropLast ++ [['0'], ['0']]) else none
    else some parts
  | none => none

/-- The groups on one side of a double colon. An empty one stands only at the
end of the address, and only alone. -/
def sideOf (groups : List Text) : List Text :=
  if groups = [[]] then [] else groups

/-- Eight groups, or fewer with one double colon among them, which shows as
an empty group inside. -/
def areGroups (groups : List Text) : Bool :=
  let inner := (groups.drop 1).dropLast
  if inner.contains [] then
    let before := groups.take (inner.idxOf [] + 1)
    let after := groups.drop (inner.idxOf [] + 2)
    (sideOf before).length + (sideOf after).length ≤ 7
      && (sideOf before).all isGroup && (sideOf after).all isGroup
  else groups.length == 8 && groups.all isGroup

/-- An address of version 6. A zone may follow it after a percent sign. -/
def isVersion6 (t : Text) : Bool :=
  let parts := Text.splitOn ':' (t.takeWhile (· != '%'))
  let zone := match t.dropWhile (· != '%') with
    | [] => true
    | _ :: zone => !zone.isEmpty && !zone.elem '%'
  zone && 3 ≤ parts.length && (groupsOf parts).any areGroups

/-- An address of a later version: its number in hexadecimal digits
after a letter, and a dot. -/
def isLater : Text → Bool
  | 'v' :: cs =>
    match cs.takeWhile Text.isHex, cs.dropWhile Text.isHex with
    | _ :: _, '.' :: _ :: _ => true
    | _, _ => false
  | _ => false

/-- A host that may stand in brackets. -/
def isBracketHost (host : Text) : Bool :=
  if host.head? = some 'v' then isLater host else isVersion6 host

/-! ## Authorities -/

/-- The text after the user, which an at sign ends. -/
def afterUser (authority : Text) : Text :=
  (authority.reverse.takeWhile (· != '@')).reverse

/-- The brackets of an authority that has both kinds stand around its host. -/
def bracketsFit (authority : Text) : Bool :=
  match afterUser authority with
  | '[' :: cs =>
    let after := (cs.dropWhile (· != ']')).drop 1
    (after.isEmpty || after.head? = some ':') &&
    isBracketHost (cs.takeWhile (· != ']'))
  | cs => !cs.elem '[' && isBracketHost (cs.takeWhile (· != ':'))

/-- The characters whose compatible form holds a slash, a question mark, a
number sign, an at sign or a colon. -/
def disguised : List Nat :=
  [0x2047, 0x2048, 0x2049, 0x2100, 0x2101, 0x2105, 0x2106, 0x2a74, 0xfe13,
    0xfe16, 0xfe55, 0xfe56, 0xfe5f, 0xfe6b, 0xff03, 0xff0f, 0xff1a,
    0xff1f, 0xff20]

/-- The authority can be that of an address. -/
def isWellFormed (authority : Text) : Bool :=
  authority.elem '[' == authority.elem ']'
    && (!authority.elem '[' || bracketsFit authority)
    && !authority.any fun c => disguised.contains c.toNat

end GrammarLint.Authority
