import GrammarLint.Check.Validate
import GrammarLint.Project.Config

/-!
# Grammar files

The grammar files of a project are those its settings name and those that its
pattern selects in the directories its settings name. A file that is named
counts whatever the patterns say; a file that is selected is left out if a
pattern for exclusion covers its path, seen from the root of the project if it
lies below, else the whole path.
-/

namespace GrammarLint

namespace Config

/-- A pattern for exclusion covers the path. -/
def excludes (config : Config) (path : Path) : Bool :=
  let seen := ((path.relativeTo? config.root).getD path).toText
  config.exclude.any fun pattern => Glob.covers pattern seen

/-- The grammar files at one of the paths in the settings. -/
def filesAt (config : Config) (disk : Disk) (path : Text) :
    Except Failure (List Path) := do
  let base ← (disk.resolve (config.root.join (Path.ofText path))).mapError
    Failure.path
  if ← (disk.isFile base).mapError Failure.path then return [base]
  else if ← (disk.isDirectory base).mapError Failure.path then
    let names ← (readPattern disk.room.pattern config.pattern).mapError
      Failure.pattern
    let files ← (disk.filesBelow names base).outcome.mapError Failure.path
    return files.filter fun file => !config.excludes file
  else return []

/-- The grammar files of a project, each once, in the order of their names. -/
def discover (config : Config) (disk : Disk) : Except Failure (List Path) :=
  (config.paths.mapM (config.filesAt disk)).map fun files =>
    files.flatten.eraseDups.mergeSort fun a b => Path.namesLe a.names b.names

/-- The files at an argument: the file itself, or the grammar files of a
directory. -/
def filesOfArgument (config : Config) (disk : Disk) (path : Path) :
    Except Failure (List Path) := do
  if ← (disk.isDirectory path).mapError Failure.path then
    let directory ← (disk.resolve path).mapError Failure.path
    { config with paths := [directory.toText] }.discover disk
  else return [path]

/-- The files at arguments; without arguments those of the project. -/
def collect (config : Config) (disk : Disk) (arguments : List Path) :
    Except Failure (List Path) :=
  match arguments with
  | [] => config.discover disk
  | _ => (arguments.mapM (config.filesOfArgument disk)).map List.flatten

end Config

namespace Disk

/-- A path as it is shown: from the working directory if it lies
below, else as given. -/
def display (disk : Disk) (path : Path) : Except Failure Path :=
  match disk.resolve path with
  | .error .nul => .ok path
  | .error fault => .error (.path fault)
  | .ok resolved =>
    match disk.workingDirectory with
    | .ok cwd => .ok ((resolved.relativeTo? (.absolute cwd)).getD path)
    | .error fault => .error (.path fault)

/-- The lines of a grammar file. -/
def readGrammar (disk : Disk) (path : Path) : Except Failure (List Text) :=
  match disk.readText path with
  | .ok text => .ok (Text.lines text)
  | .error .nul => .error (.path .nul)
  | .error fault => .error (.grammar path fault)

end Disk

/-- Checks a grammar file under these settings. -/
def Config.lint (config : Config) (disk : Disk) (path : Path) :
    Except Failure (List Diagnostic) :=
  (disk.readGrammar path).map fun lines => config.filter (validate lines)

end GrammarLint
