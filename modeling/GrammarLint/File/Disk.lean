import GrammarLint.File.Path
import GrammarLint.Text.Glob
import GrammarLint.Text.Lines
import GrammarLint.Text.Quoted
import GrammarLint.Text.Utf8

/-!
# The file system as a value

A disk is the list of its files, directories and links, each under its names
from the root, together with a working directory. Every look at the file system
walks a path name by name, as the operating system does: each name but the last
must be a directory that may be passed through, a double dot goes up from where
the walk stands, and a link is replaced by the path it holds, up to a number of
links. Names and paths have a greatest length. The working directory may be
removed, and then relative paths have no place to start from.

The program itself walks a path once more when it resolves it, and there it is
the stack that ends, not the number of links. How far the stack reaches depends
on what the program is doing, so a disk comes with the room that is left.
-/

namespace GrammarLint

/-- A link stands for another path, seen from the directory of the link. -/
structure Link where
  target : Path
  /-- The target ends with a slash and must be a directory. -/
  toDirectory : Bool := false
  deriving DecidableEq, Repr, Inhabited

/-- What stands under a path. -/
inductive DiskEntry where
  | directory
  | file (bytes : List UInt8)
  | link (link : Link)
  deriving DecidableEq, Repr, Inhabited

/-- Why a path cannot be opened. -/
inductive FileFault where
  | missing
  | notDirectory
  | isDirectory
  | tooLong
  | loop
  | denied
  deriving DecidableEq, Repr, Inhabited

namespace FileFault

/-- The number and words of the operating system. -/
def cause : FileFault → String
  | missing => "[Errno 2] No such file or directory"
  | notDirectory => "[Errno 20] Not a directory"
  | isDirectory => "[Errno 21] Is a directory"
  | tooLong => "[Errno 36] File name too long"
  | loop => "[Errno 40] Too many levels of symbolic links"
  | denied => "[Errno 13] Permission denied"

/-- The fault with the path it is about. -/
def message (fault : FileFault) (path : Path) : String :=
  fault.cause ++ ": " ++ String.ofList (Text.quoted path.toText)

end FileFault

/-- Why a path cannot be followed at all: it holds a null character, it is too
long to ask about, it starts from a working directory that has been removed, its
links lead in a circle, it passes through a directory that may not be passed
through, or it is nested deeper than the stack reaches. -/
inductive PathFault where
  | nul
  | tooLong
  | noDirectory
  | loop
  | denied
  | tooDeep
  deriving DecidableEq, Repr, Inhabited

/-- Why the text of a file cannot be read. -/
inductive ReadFault where
  | file (fault : FileFault)
  | encoding (fault : Utf8.Fault)
  | nul
  deriving DecidableEq, Repr, Inhabited

/-- The fault in words. -/
def ReadFault.message (path : Path) : ReadFault → String
  | .file fault => fault.message path
  | .encoding fault => fault.message
  | .nul => "the path holds a null character"

/-- How far the stack reaches into what is nested. -/
structure Room where
  /-- For values inside each other in a file of settings: an array takes two
  units, an inline table three. -/
  values : Nat := 986
  /-- For links that lead through other links. -/
  links : Nat := 987
  /-- For directories inside each other. -/
  directories : Nat := 985
  /-- For the names of a pattern. -/
  pattern : Nat := 196
  deriving DecidableEq, Repr, Inhabited

/-- Files, directories and links, and the directory that relative paths start
from. -/
structure Disk where
  entries : List (List Text × DiskEntry) := []
  cwd : List Text := []
  /-- The number of names of the highest directory at or above the working
  directory that has been removed, if one has. Whatever is made under its names
  later is another directory. -/
  lost : Option Nat := none
  /-- The directories that may not be passed through. -/
  barred : List (List Text) := []
  /-- The files that may not be read, and the directories that may not be
  listed. -/
  sealed : List (List Text) := []
  room : Room := {}
  deriving Repr, Inhabited

namespace Disk

/-! ## Looking -/

/-- The most bytes of a name. -/
def nameLimit : Nat := 255

/-- The most bytes of a path. -/
def pathLimit : Nat := 4095

/-- The most links on the way of one walk. -/
def linkLimit : Nat := 40

/-- The bytes that a text takes. -/
def byteSize (t : Text) : Nat := (Utf8.encode t).length

/-- What stands under these names; the root is a directory. -/
def entry? (disk : Disk) (names : List Text) : Option DiskEntry :=
  match names with
  | [] => some .directory
  | _ => disk.entries.lookup names

/-- Walks on from `here`, up to a link. What comes of the link and the names
behind it is for `enter` to say. -/
def walkOn (disk : Disk)
    (enter : List Text → Link → List Text → Except FileFault (List Text)) :
    List Text → List Text → Except FileFault (List Text)
  | here, [] => .ok here
  | here, name :: names =>
    match disk.entry? here with
    | none => .error .missing
    | some (.file _) => .error .notDirectory
    | some (.link _) => .error .notDirectory
    | some .directory =>
      if disk.barred.contains here then .error .denied
      else if name = Path.up then disk.walkOn enter here.dropLast names
      else if nameLimit < byteSize name then .error .tooLong
      else
        match disk.entry? (here ++ [name]) with
        | some (.link link) => enter here link names
        | _ => disk.walkOn enter (here ++ [name]) names

/-- Walks on from `here`, through this many links at most. -/
def walkThrough (disk : Disk) :
    Nat → List Text → List Text → Except FileFault (List Text)
  | 0 => disk.walkOn fun _ _ _ => .error .loop
  | links + 1 => disk.walkOn fun here link names =>
    let start := if link.target.isAbsolute then [] else here
    (disk.walkThrough links start (link.target.names ++ names)).bind
      fun place =>
        match disk.entry? place with
        | some (.file _) =>
          if link.toDirectory && names.isEmpty then .error .notDirectory
          else .ok place
        | _ => .ok place

/-- Walks on from `here`. -/
def walkFrom (disk : Disk) (here names : List Text) :
    Except FileFault (List Text) :=
  disk.walkThrough linkLimit here names

/-- Walks on from a directory that has been removed if it has `lost` names or
more. It is empty, but a double dot still leads to the directory above. The
answer is none if the walk ends in a removed directory. -/
def walkLost (disk : Disk) (lost : Nat) :
    List Text → List Text → Except FileFault (Option (List Text))
  | here, [] => .ok (if here.length < lost then some here else none)
  | here, name :: names =>
    if here.length < lost then (disk.walkFrom here (name :: names)).map some
    else if name = Path.up then disk.walkLost lost here.dropLast names
    else if nameLimit < byteSize name then .error .tooLong
    else .error .missing

/-- The names that a path leads to; none for a directory that has been
removed. -/
def follow (disk : Disk) (path : Path) :
    Except FileFault (Option (List Text)) :=
  match path.isAbsolute, disk.lost with
  | false, some lost => disk.walkLost lost disk.cwd path.names
  | false, none => (disk.walkFrom disk.cwd path.names).map some
  | true, _ => (disk.walkFrom [] path.names).map some

/-- The names that a path leads to, and what stands there. -/
def walk (disk : Disk) (path : Path) :
    Except FileFault (Option (List Text) × DiskEntry) :=
  if pathLimit < byteSize path.toText then .error .tooLong
  else
    match disk.follow path with
    | .error fault => .error fault
    | .ok none => .ok (none, .directory)
    | .ok (some names) =>
      match disk.entry? names with
      | none => .error .missing
      | some entry => .ok (some names, entry)

/-- What stands under a path, if anything does. A path that is too long,
or that passes through a directory that may not be passed through,
cannot be asked about. -/
def look (disk : Disk) (path : Path) : Except PathFault (Option DiskEntry) :=
  if path.hasNul then .ok none
  else
    match disk.walk path with
    | .ok (_, entry) => .ok (some entry)
    | .error .tooLong => .error .tooLong
    | .error .denied => .error .denied
    | .error _ => .ok none

/-- Something stands under the path. -/
def exists? (disk : Disk) (path : Path) : Except PathFault Bool :=
  (disk.look path).map Option.isSome

/-- A directory stands under the path. -/
def isDirectory (disk : Disk) (path : Path) : Except PathFault Bool :=
  (disk.look path).map fun
    | some .directory => true
    | _ => false

/-- A file stands under the path. -/
def isFile (disk : Disk) (path : Path) : Except PathFault Bool :=
  (disk.look path).map fun
    | some (.file _) => true
    | _ => false

/-- What stands at these names may not be read. -/
def isSealed (disk : Disk) : Option (List Text) → Bool
  | some names => disk.sealed.contains names
  | none => false

/-- The bytes of a file. -/
def read (disk : Disk) (path : Path) : Except FileFault (List UInt8) :=
  match disk.walk path with
  | .error fault => .error fault
  | .ok (place, entry) =>
    if disk.isSealed place then .error .denied
    else
      match entry with
      | .file bytes => .ok bytes
      | _ => .error .isDirectory

/-- The text of a file, with every line break written as `\n`. -/
def readText (disk : Disk) (path : Path) : Except ReadFault Text :=
  if path.hasNul then .error .nul
  else
    match disk.read path with
    | .error fault => .error (.file fault)
    | .ok bytes =>
      match Utf8.decode bytes with
      | .error fault => .error (.encoding fault)
      | .ok text => .ok (Text.unifyBreaks text)

/-- The names of the working directory, while it stands. -/
def workingDirectory (disk : Disk) : Except PathFault (List Text) :=
  if disk.lost.isSome then .error .noDirectory else .ok disk.cwd

/-! ## Resolving

A path is resolved by its names: a double dot takes back the name in front of
it, and where a link stands the path it holds is resolved in its place. Whatever
cannot be asked about counts as no link. A link that is met again while it is
being resolved ends the work: the path keeps the link and the names behind it,
and it is the last look at the path that finds the circle. -/

/-- The path that a link at this very path holds, if one stands there. -/
def linkAt? (disk : Disk) (path : Path) : Except PathFault (Option Path) :=
  if path.hasNul then .error .nul
  else if pathLimit < byteSize path.toText then .ok none
  else
    match disk.follow path.parent with
    | .ok (some here) =>
      if disk.barred.contains here then .ok none
      else
        match disk.entry? (here ++ [path.name]) with
        | some (.link link) => .ok (some link.target)
        | _ => .ok none
    | _ => .ok none

/-- A path as far as it is resolved. -/
structure Trail where
  path : Path
  /-- No circle has been met. -/
  whole : Bool
  /-- The links on the way, each with the path it leads to once that is
  known. -/
  known : List (Path × Option Path)

/-- Resolves names below a path. A link that is new is for `enter` to
resolve. -/
def resolveOn (disk : Disk)
    (enter : List (Path × Option Path) → Path → Path → Except PathFault Trail) :
    List (Path × Option Path) → Path → List Text → Except PathFault Trail
  | known, path, [] => .ok ⟨path, true, known⟩
  | known, path, name :: names =>
    if name = Path.up then disk.resolveOn enter known path.goUp names
    else
      match disk.linkAt? (path.child name) with
      | .error fault => .error fault
      | .ok none => disk.resolveOn enter known (path.child name) names
      | .ok (some target) =>
        match known.lookup (path.child name) with
        | some (some found) => disk.resolveOn enter known found names
        | some none => .ok ⟨(path.child name).extend names, false, known⟩
        | none =>
          match enter ((path.child name, none) :: known) path target with
          | .error fault => .error fault
          | .ok trail =>
            if trail.whole then
              disk.resolveOn enter
                ((path.child name, some trail.path) :: trail.known) trail.path
                names
            else .ok { trail with path := trail.path.extend names }

/-- Resolves the path that a link holds, as far as the stack reaches. -/
def resolveLink (disk : Disk) :
    Nat → List (Path × Option Path) → Path → Path → Except PathFault Trail
  | 0, _, _, _ => .error .tooDeep
  | room + 1, known, path, target =>
    disk.resolveOn (disk.resolveLink room) known
      (if target.isAbsolute then .absolute [] else path) target.names

/-- The path below `/` that names lead to from the working directory, if they
do not start at a root. -/
def fromRoot (disk : Disk) (path : Path) : Except PathFault Path :=
  if path.isAbsolute then .ok (path.resolve [])
  else disk.workingDirectory.map path.resolve

/-- The path below `/` that a path leads to. -/
def resolve (disk : Disk) (path : Path) : Except PathFault Path := do
  let start : Path := if path.isAbsolute then .absolute [] else {}
  let trail ← disk.resolveOn (disk.resolveLink disk.room.links)
    [] start path.names
  let resolved ← disk.fromRoot trail.path
  if resolved.hasNul then .error .nul
  else
    match disk.walk resolved with
    | .error .loop => .error .loop
    | _ => .ok resolved

/-! ## Listing -/

/-- What a directory holds, by name. Whatever is listed has been found to be a
directory. -/
def list (disk : Disk) (path : Path) :
    Except PathFault (List (Text × DiskEntry)) :=
  match disk.walk path with
  | .error .tooLong => .error .tooLong
  | .error .denied => .error .denied
  | .ok (some here, .directory) =>
    if disk.sealed.contains here then .error .denied
    else .ok (disk.entries.filterMap fun entry =>
      match here.isPrefixOf? entry.1 with
      | some [name] => some (name, entry.2)
      | _ => none)
  | _ => .ok []

/-! ## Changing -/

/-- Takes away what stands at and below these names, the working directory
included. -/
def remove (disk : Disk) (names : List Text) : Disk :=
  { disk with
    entries := disk.entries.filter fun (other, _) => !names.isPrefixOf other
    barred := disk.barred.filter fun other => !names.isPrefixOf other
    sealed := disk.sealed.filter fun other => !names.isPrefixOf other
    lost :=
      if names.isPrefixOf disk.cwd then
        some (min names.length (disk.lost.getD names.length))
      else disk.lost }

/-- Puts up an entry in place of the one with its names. -/
def put (disk : Disk) (names : List Text) (entry : DiskEntry) : Disk :=
  { disk with
    entries :=
      disk.entries.filter (fun (other, _) => other != names) ++
        [(names, entry)] }

/-- Makes a directory and those above it, where there is nothing yet. -/
def makeDirectory (disk : Disk) (names : List Text) : Disk :=
  (Path.ancestors names).reverse.foldl
    (fun disk names =>
      if (disk.entry? names).isSome then disk else disk.put names .directory)
    disk

/-- Writes a file, and makes the directories above it. -/
def write (disk : Disk) (names : List Text) (bytes : List UInt8) : Disk :=
  (disk.makeDirectory names.dropLast).put names (.file bytes)

end Disk

end GrammarLint
