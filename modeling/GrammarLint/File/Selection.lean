import GrammarLint.File.Disk

/-!
# Selecting files by pattern

A pattern is a relative path whose names may be glob patterns; `*` does not
cross a slash here, since every name is matched on its own. A name of two stars
stands for any directories, none included. Whatever is not the last name must be
a directory, and a slash at the end asks for directories only. Two stars inside
a longer name, and patterns that start at the root, are refused.

Paths are selected one after the other, and what stops the search does not take
back what it has found before. A directory that may not be listed or passed
through is left out; every other fault stops the search.
-/

namespace GrammarLint

/-- Why a pattern selects nothing at all. -/
inductive PatternFault where
  | absolute
  | innerStars
  | tooDeep
  deriving DecidableEq, Repr, Inhabited

/-- One name of a pattern. -/
inductive PatternName where
  /-- Any directories, none included. -/
  | descend
  /-- A name that the glob pattern stands for. -/
  | glob (pattern : Text)
  /-- This very name. -/
  | exact (name : Text)
  /-- The end of a pattern that asks for directories. -/
  | here
  deriving DecidableEq, Repr, Inhabited

namespace PatternName

/-- Reads one name of a pattern; the empty name is the one behind a slash at the
end. -/
def ofText (name : Text) : Except PatternFault PatternName :=
  if name = [] then .ok .here
  else if name = ['*', '*'] then .ok .descend
  else if (Text.columnOf? ['*', '*'] name).isSome then .error .innerStars
  else if Glob.isPattern name then .ok (.glob name)
  else .ok (.exact name)

end PatternName

/-- Reads the names of a pattern one after the other, as far as the stack
reaches. -/
def readPatternNames : Nat → List Text → Except PatternFault (List PatternName)
  | _, [] => .ok []
  | 0, _ :: _ => .error .tooDeep
  | room + 1, name :: names => do
    let first ← PatternName.ofText name
    let rest ← readPatternNames room names
    return first :: rest

/-- Reads a pattern. -/
def readPattern (room : Nat) (pattern : Text) :
    Except PatternFault (List PatternName) :=
  let path := Path.ofText pattern
  if path.isAbsolute then .error .absolute
  else readPatternNames room
    (path.names ++ if pattern.getLast? = some '/' then [[]] else [])

/-! ## Searches -/

/-- What a search has found, and the fault that stopped it, if one did. -/
structure Search (α : Type) where
  found : List α := []
  fault : Option PathFault := none
  deriving DecidableEq, Repr, Inhabited

namespace Search

variable {α β : Type}

/-- Finds this and nothing else. -/
def one (a : α) : Search α := ⟨[a], none⟩

/-- Finds nothing. -/
def nothing : Search α := ⟨[], none⟩

/-- Is stopped before it finds anything. A path that passes through a directory
that may not be passed through stops nothing. -/
def stopped : PathFault → Search α
  | .denied => nothing
  | fault => ⟨[], some fault⟩

/-- One search and then the other. -/
def andThen (s t : Search α) : Search α :=
  match s.fault with
  | none => ⟨s.found ++ t.found, t.fault⟩
  | some _ => s

/-- A search from everything that is found, as soon as it is found. -/
def flatMap (s : Search α) (f : α → Search β) : Search β :=
  s.found.foldr (fun a rest => (f a).andThen rest) ⟨[], s.fault⟩

/-- Searches on with an answer. -/
def asked (answer : Except PathFault β) (next : β → Search α) : Search α :=
  match answer with
  | .ok b => next b
  | .error fault => stopped fault

/-- What has been found, if nothing stopped the search. -/
def outcome (s : Search α) : Except PathFault (List α) :=
  match s.fault with
  | none => .ok s.found
  | some fault => .error fault

end Search

namespace Disk

/-- The directories among what a directory holds, links to directories included.
The search ends at a link that may not be followed. -/
def directoriesAmong (disk : Disk) (path : Path) :
    List (Text × DiskEntry) → Search Text
  | [] => .nothing
  | (name, .directory) :: entries =>
    (Search.one name).andThen (disk.directoriesAmong path entries)
  | (_, .file _) :: entries => disk.directoriesAmong path entries
  | (name, .link _) :: entries =>
    Search.asked (disk.isDirectory (path.child name)) fun isDirectory =>
      if isDirectory then
        (Search.one name).andThen (disk.directoriesAmong path entries)
      else disk.directoriesAmong path entries

/-- The directories at and below a directory, links left aside, as far
as the stack reaches. -/
def descend (disk : Disk) : Nat → Path → Search Path
  | 0, _ => ⟨[], some .tooDeep⟩
  | room + 1, path =>
    (Search.one path).andThen (Search.asked (disk.list path) fun entries =>
      Search.flatMap ⟨entries, none⟩ fun entry =>
        match entry.2 with
        | .directory => disk.descend room (path.child entry.1)
        | _ => .nothing)

/-- What the names of a pattern select from a directory. -/
def select (disk : Disk) : List PatternName → Path → Search Path
  | [], path => .one path
  | .here :: _, path => .one path
  | .descend :: rest, path =>
    (disk.descend disk.room.directories path).flatMap (disk.select rest)
  | .glob pattern :: rest, path =>
    Search.asked (disk.list path) fun entries =>
      (if rest.isEmpty then ⟨entries.map Prod.fst, none⟩
        else disk.directoriesAmong path entries).flatMap fun name =>
          if Glob.covers pattern name then disk.select rest (path.child name)
          else .nothing
  | .exact name :: rest, path =>
    Search.asked
      (if rest.isEmpty then disk.exists? (path.child name)
        else disk.isDirectory (path.child name)) fun fits =>
          if fits then disk.select rest (path.child name) else .nothing

/-- The path if it is a file. -/
def fileAt (disk : Disk) (path : Path) : Search Path :=
  match disk.isFile path with
  | .ok true => .one path
  | .ok false => .nothing
  | .error fault => ⟨[], some fault⟩

/-- The files that the names of a pattern select anywhere at or below a
directory. -/
def filesBelow (disk : Disk) (names : List PatternName)
    (path : Path) : Search Path :=
  (disk.select (.descend :: names) path).flatMap disk.fileAt

end Disk

end GrammarLint
