import GrammarLint.Text.Basic

/-!
# Paths

A path is an anchor and the names below it. Reading a path drops empty
names and single dots and keeps double dots, since only the file system
can tell where those lead. Two slashes in front are kept apart from one;
three or more count as one.
-/

namespace GrammarLint

/-- Where a path starts: at the working directory, at `/`, or at `//`. -/
inductive Anchor where
  | here
  | root
  | doubleRoot
  deriving DecidableEq, Repr, Inhabited

namespace Anchor

/-- The anchor as it is written. -/
def toText : Anchor → Text
  | here => []
  | root => ['/']
  | doubleRoot => ['/', '/']

end Anchor

/-- A path. -/
structure Path where
  anchor : Anchor := .here
  names : List Text := []
  deriving DecidableEq, Repr, Inhabited

namespace Path

/-- The name of the directory above. -/
def up : Text := ['.', '.']

/-- The names in a text: what stands between slashes, without empty
names and single dots. -/
def namesOf (text : Text) : List Text :=
  (Text.splitOn '/' text).filter fun name => name != [] && name != ['.']

/-- The anchor of a text, from the number of slashes in front. -/
def anchorOf (text : Text) : Anchor :=
  match (text.takeWhile (· == '/')).length with
  | 0 => .here
  | 2 => .doubleRoot
  | _ => .root

/-- Reads a path. -/
def ofText (text : Text) : Path := ⟨anchorOf text, namesOf text⟩

/-- Writes a path; the empty path is a dot. -/
def toText (p : Path) : Text :=
  match p.anchor, p.names with
  | .here, [] => ['.']
  | anchor, names => anchor.toText ++ Text.joinWith ['/'] names

/-- The path as a string. -/
def toString (p : Path) : String := String.ofList p.toText

/-- The path with these names below `/`. -/
def absolute (names : List Text) : Path := ⟨.root, names⟩

/-- The path starts at a root. -/
def isAbsolute (p : Path) : Bool := p.anchor != .here

/-- The last name, empty if there is none. -/
def name (p : Path) : Text := p.names.getLast?.getD []

/-- A null character stands in one of the names. -/
def hasNul (p : Path) : Bool := p.names.any (·.elem '\x00')

/-- The path without its last name. -/
def parent (p : Path) : Path := { p with names := p.names.dropLast }

/-- The path `q` as seen from `p`: `q` itself if it starts at a root, else `q`
below `p`. -/
def join (p q : Path) : Path :=
  if q.isAbsolute then q else { p with names := p.names ++ q.names }

/-- The path with one more name. -/
def child (p : Path) (name : Text) : Path :=
  { p with names := p.names ++ [name] }

/-- The names after double dots have taken back the name in front of them; above
the root there is nothing to take back. -/
def fold (start : List Text) (names : List Text) : List Text :=
  names.foldl
    (fun names name => if name = up then names.dropLast else names ++ [name])
    start

/-- The path below `/` that a path leads to from a working directory, by its
names alone. -/
def resolve (cwd : List Text) (p : Path) : Path :=
  absolute (fold (if p.isAbsolute then [] else cwd) p.names)

/-- One name up, as far as names can tell: above the working directory a
double dot has to stay. -/
def goUp (p : Path) : Path :=
  if p.isAbsolute || p.names.getLast?.any (· != up) then p.parent
  else p.child up

/-- The path with more names at its end. -/
def extend (p : Path) (names : List Text) : Path :=
  { p with names := p.names ++ names }

/-- The path seen from a base whose names it starts with. -/
def relativeTo? (p base : Path) : Option Path :=
  if p.anchor = base.anchor then
    (base.names.isPrefixOf? p.names).map fun rest => ⟨.here, rest⟩
  else none

/-- The directories from a list of names up to the root. -/
def ancestors (names : List Text) : List (List Text) :=
  (List.range (names.length + 1)).map fun k => names.take (names.length - k)

/-- Order by names, first name first. -/
def namesLe : List Text → List Text → Bool
  | [], _ => true
  | _ :: _, [] => false
  | a :: as, b :: bs => if a = b then namesLe as bs else Text.le a b

end Path

end GrammarLint
