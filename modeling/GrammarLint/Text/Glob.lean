import GrammarLint.Text.Basic

/-!
# Glob patterns

`*` stands for any text, `?` for any character, `[...]` for one character of a
set and `[!...]` for one outside it; everything else stands for itself. A
bracket that is never closed stands for itself too, and nothing escapes a
special character. Slashes are ordinary characters here.

In a set a hyphen between two characters makes a range. A range that runs
backwards holds nothing and takes its two ends with it; a set left empty by that
matches nothing, and its negation everything.
-/

namespace GrammarLint

/-- A stretch of code points, both ends included. -/
structure CharRange where
  first : Char
  last : Char
  deriving DecidableEq, Repr, Inhabited

/-- The character lies in the range. -/
def CharRange.has (r : CharRange) (c : Char) : Bool :=
  r.first.toNat ≤ c.toNat && c.toNat ≤ r.last.toNat

/-- A piece of a glob pattern. -/
inductive GlobItem where
  | star
  | anyChar
  | char (c : Char)
  | set (negated : Bool) (ranges : List CharRange)
  deriving DecidableEq, Repr, Inhabited

namespace GlobItem

/-- The characters that a piece other than a star stands for. -/
def accepts : GlobItem → Char → Bool
  | star, _ => false
  | anyChar, _ => true
  | char d, c => c == d
  | set negated ranges, c => ranges.any (CharRange.has · c) != negated

end GlobItem

namespace Glob

/-! ## Sets -/

/-- The inside of a bracket whose opening has been read. A closing bracket at
its very start, or after the negation, belongs to the set. -/
def takeSet? (cs : Text) : Option Text :=
  let negation := if cs.head? = some '!' then 1 else 0
  let lead :=
    if (cs.drop negation).head? = some ']' then negation + 1 else negation
  let rest := cs.drop lead
  if rest.elem ']' then some (cs.take lead ++ rest.takeWhile (· != ']'))
  else none

/-- Cuts a set at the hyphens that make ranges. A hyphen does when at least
`least` characters stand before it in its part; after the first part that takes
two, an end and a beginning. -/
def cutRanges : Nat → Text → Text → List Text
  | _, part, [] => [part.reverse]
  | least, part, c :: cs =>
    if c = '-' ∧ least ≤ part.length then part.reverse :: cutRanges 2 [] cs
    else cutRanges least (c :: part) cs

/-- A hyphen at the very end of a set makes no range. -/
def keepLastHyphen : List Text → List Text
  | [] => []
  | [part] => [part]
  | [part, []] => [part ++ ['-']]
  | part :: parts => part :: keepLastHyphen parts

/-- Takes out the ranges that run backwards, from the last to the first. -/
def dropBackward : List Text → List Text
  | [] => []
  | part :: parts =>
    match dropBackward parts with
    | [] => [part]
    | next :: rest =>
      match part.getLast?, next.head? with
      | some a, some b =>
        if b.toNat < a.toNat then (part.dropLast ++ next.tail) :: rest
        else part :: next :: rest
      | _, _ => part :: next :: rest

/-- The ranges between neighbouring parts. -/
def rangesBetween : List Text → List CharRange
  | part :: next :: rest =>
    match part.getLast?, next.head? with
    | some a, some b => ⟨a, b⟩ :: rangesBetween (next :: rest)
    | _, _ => rangesBetween (next :: rest)
  | _ => []

/-- The members of a set: every character of its parts, and the ranges between
the parts. -/
def membersOf (parts : List Text) : List CharRange :=
  parts.flatten.map (fun c => ⟨c, c⟩) ++ rangesBetween parts

/-- The piece for the inside of a bracket. -/
def setItem (inside : Text) : GlobItem :=
  let least := if inside.head? = some '!' then 2 else 1
  match dropBackward (keepLastHyphen (cutRanges least [] inside)) with
  | ('!' :: part) :: parts => .set true (membersOf (part :: parts))
  | parts => .set false (membersOf parts)

/-! ## Patterns -/

/-- The pieces of a pattern; `skip` characters belong to a set already read. -/
def itemsFrom : Nat → Text → List GlobItem
  | _, [] => []
  | skip + 1, _ :: cs => itemsFrom skip cs
  | 0, '*' :: cs => .star :: itemsFrom 0 cs
  | 0, '?' :: cs => .anyChar :: itemsFrom 0 cs
  | 0, '[' :: cs =>
    match takeSet? cs with
    | some inside => setItem inside :: itemsFrom (inside.length + 1) cs
    | none => .char '[' :: itemsFrom 0 cs
  | 0, c :: cs => .char c :: itemsFrom 0 cs

/-- The pieces of a pattern. -/
def items (pattern : Text) : List GlobItem := itemsFrom 0 pattern

/-- For every place of a list of answers, whether one there or after it
holds. -/
def anyFrom (answers : List Bool) : List Bool :=
  answers.foldr
    (fun answer later => (answer || later.head?.getD false) :: later) []

/-- For every end of the text, from the text itself to the empty text, whether
the pieces stand for it. Every piece is looked at once for every end, so that
stars cost no more than characters. -/
def endsCovered : List GlobItem → Text → List Bool
  | [], text => text.map (fun _ => false) ++ [true]
  | .star :: rest, text => anyFrom (endsCovered rest text)
  | item :: rest, text =>
    List.zipWith (fun c after => item.accepts c && after) text
      (endsCovered rest text).tail ++ [false]

/-- The pattern stands for the whole text. -/
def covers (pattern text : Text) : Bool :=
  (endsCovered (items pattern) text).head?.getD false

/-- The text has a character that is special in patterns. -/
def isPattern (text : Text) : Bool :=
  text.any fun c => c == '*' || c == '?' || c == '['

end Glob

end GrammarLint
