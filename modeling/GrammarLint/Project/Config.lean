import GrammarLint.Failure.Cause
import GrammarLint.Toml.Document

/-!
# Settings

The settings of a project come from the nearest file of settings at or
above a starting point. In every directory `larklint.toml` is preferred; a
`pyproject.toml` counts only if it has a table for the tool. Without
either the defaults hold.
-/

namespace GrammarLint

/-- The settings of a project. -/
structure Config where
  /-- The directory that paths are seen from. -/
  root : Path := {}
  /-- Where grammar files are looked for. -/
  paths : List Text := [['.']]
  /-- The pattern for grammar files in directories. -/
  pattern : Text := "*.lark".toList
  /-- Patterns for files that are left out. -/
  exclude : List Text := []
  /-- Codes that are not reported. -/
  disable : List Code := []
  /-- The languages whose documents are checked. -/
  languageIds : List Text := ["lark".toList]
  /-- The file that the settings come from. -/
  file : Option Path := none
  deriving DecidableEq, Repr, Inhabited

namespace Config

/-- The file name of settings. -/
def fileName : Text := "larklint.toml".toList

/-- The file name of a project description, in which settings are one table. -/
def projectFileName : Text := "pyproject.toml".toList

/-- Drops the diagnostics whose code is not reported. -/
def filter (config : Config) (diagnostics : List Diagnostic) :
    List Diagnostic :=
  diagnostics.filter fun d => !config.disable.contains d.code

/-! ## Reading settings -/

/-- The codes with these labels; the first label that is none is at fault. -/
def readCodes (labels : List Text) : Except ConfigFault (List Code) :=
  labels.mapM fun label =>
    match Code.ofLabel? (String.ofList label) with
    | some code => .ok code
    | none => .error (.unknownCode label)

/-- The text of a value. -/
def textOf? : Toml.Value → Option Text
  | .text t => some t
  | _ => none

/-- A setting that is a list of texts. -/
def textList (settings : Toml.Table) (key : Text) (default : List Text) :
    Except ConfigFault (List Text) :=
  match settings.get? key with
  | none => .ok default
  | some (.array items) =>
    match items.mapM textOf? with
    | some texts => .ok texts
    | none => .error (.notTextList key)
  | some _ => .error (.notTextList key)

/-- The pattern for grammar files. -/
def patternOf (settings : Toml.Table) (default : Text) :
    Except ConfigFault Text :=
  match settings.get? "include".toList with
  | none => .ok default
  | some (.text t) => .ok t
  | some _ => .error .patternNotText

/-- The settings of a new project: the defaults, seen from the working
directory. -/
def ofWorkingDirectory (disk : Disk) : Except Failure Config :=
  match disk.workingDirectory with
  | .ok cwd => .ok { root := .absolute cwd }
  | .error fault => .error (.path fault)

/-- Reads the lists among settings on top of the defaults. Of several faults the
first in this order counts. -/
def readLists (base : Config) (settings : Toml.Table) :
    Except ConfigFault Config := do
  let paths ← textList settings "paths".toList base.paths
  let exclude ← textList settings "exclude".toList base.exclude
  let labels ← textList settings "disable".toList []
  let disable ← readCodes labels
  let languageIds ← textList settings "language_ids".toList base.languageIds
  return { base with paths, exclude, disable, languageIds }

/-- The settings with more codes that are not reported. -/
def withDisabled (config : Config) (labels : List Text) :
    Except Failure Config :=
  match readCodes labels with
  | .ok codes => .ok { config with disable := config.disable ++ codes }
  | .error fault => .error (.config (config.file.getD config.root) fault)

/-- The value under the tool's own name in a project description. -/
def ofProject? (data : Toml.Table) : Except Failure (Option Toml.Value) :=
  match data.get? "tool".toList with
  | none => .ok none
  | some (.table tools) => .ok (Toml.Table.get? tools toolName.toList)
  | some _ => .error .settingsNotTable

/-- The value with the settings in a file, if it has one. -/
def settingsIn (disk : Disk) (file : Path) :
    Except Failure (Option Toml.Value) :=
  match disk.readText file with
  | .error (.file fault) => .error (.config file (.unreadable fault))
  | .error (.encoding fault) => .error (.configEncoding fault)
  | .error .nul => .error (.path .nul)
  | .ok text =>
    match Toml.read disk.room.values text with
    | .error .longInteger => .error .longNumber
    | .error .nesting => .error .deepNesting
    | .error fault => .error (.config file (.malformed fault))
    | .ok data =>
        if file.name = projectFileName then ofProject? data
        else .ok (some (.table data))

/-- A fault of settings, with the file they come from. -/
def inFile {α : Type} (file : Path) (result : Except ConfigFault α) :
    Except Failure α :=
  result.mapError (Failure.config file)

/-- Loads the settings of a file. -/
def load (disk : Disk) (file : Path) : Except Failure Config := do
  let settings ← match ← settingsIn disk file with
    | none => .ok []
    | some (.table settings) => .ok settings
    | some _ => .error .settingsNotTable
  let defaults : Config := {}
  let pattern ← inFile file (patternOf settings defaults.pattern)
  let root ← (disk.resolve file.parent).mapError Failure.path
  inFile file (readLists { root, pattern, file := some file } settings)

/-! ## Finding settings -/

/-- The directory of a starting point: itself, or the one it stands in. -/
def directoryOf (disk : Disk) (start : Path) : Except PathFault Path := do
  let start ← disk.resolve start
  return if ← disk.isDirectory start then start else start.parent

/-- The file of settings in a directory. -/
def findIn (disk : Disk) (directory : Path) : Except Failure (Option Path) := do
  let own := directory.child fileName
  let project := directory.child projectFileName
  if ← (disk.isFile own).mapError Failure.path then return some own
  else if ← (disk.isFile project).mapError Failure.path then
    return if (← settingsIn disk project).isSome then some project else none
  else return none

/-- The first file of settings in these directories. -/
def findFirst (disk : Disk) : List Path → Except Failure (Option Path)
  | [] => .ok none
  | directory :: directories =>
    match findIn disk directory with
    | .ok none => findFirst disk directories
    | answer => answer

/-- The nearest file of settings at or above a starting point. -/
def find (disk : Disk) (start : Path) : Except Failure (Option Path) := do
  let directory ← (directoryOf disk start).mapError Failure.path
  findFirst disk ((Path.ancestors directory.names).map Path.absolute)

/-- The settings in an explicit file, in the nearest one, or the defaults. -/
def resolve (disk : Disk) (start : Path) (explicit : Option Path) :
    Except Failure Config :=
  match explicit with
  | some file => load disk file
  | none =>
    match find disk start with
    | .error failure => .error failure
    | .ok (some file) => load disk file
    | .ok none =>
        ((directoryOf disk start).mapError Failure.path).map
          fun root => { root }

end Config

end GrammarLint
