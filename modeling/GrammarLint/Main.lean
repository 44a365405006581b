import GrammarLint.Command.Run

/-!
# The program

Reads the part of the file system that a command line may look at into a disk,
runs the command on it and prints the outcome.
-/

namespace GrammarLint.Program

/-- Adds what stands at a path, and below it if it is a directory. -/
partial def addTree (disk : Disk) (path : Path) : IO Disk := do
  let place := (← IO.currentDir) / path.toString
  if ← place.isDir then
    let mut disk := disk.makeDirectory path.names
    for entry in ← place.readDir do
      disk ← addTree disk (path.child entry.fileName.toList)
    return disk
  else if ← place.pathExists then
    return disk.write path.names (← IO.FS.readBinFile place).toList
  else return disk

/-- Adds the files of settings at and above a directory. -/
def addSettings (disk : Disk) (names : List Text) : IO Disk := do
  let mut disk := disk
  for directory in Path.ancestors names do
    for name in [Config.fileName, Config.projectFileName] do
      let file := (Path.absolute directory).child name
      let place := (← IO.currentDir) / file.toString
      if (← place.pathExists) && !(← place.isDir) then
        disk := disk.write file.names (← IO.FS.readBinFile place).toList
  return disk

/-- Adds the paths that a check starts from, and those that its settings
name. -/
def addCheck (disk : Disk) (request : CheckRequest) : IO Disk := do
  let start := request.paths.head?.getD (.absolute disk.cwd)
  let mut disk ← addSettings disk (start.resolve disk.cwd).names
  for path in request.config.toList ++ request.paths do
    disk ← addTree disk (path.resolve disk.cwd)
  match request.paths, Config.resolve disk start request.config with
  | [], .ok config =>
    for path in config.paths do
      disk ← addTree disk
        ((config.root.join (Path.ofText path)).resolve disk.cwd)
    return disk
  | _, _ => return disk

/-- The disk that a command may look at. -/
def diskFor (command : Command) : IO Disk := do
  let cwd := (Path.ofText (← IO.currentDir).toString.toList).names
  let disk : Disk := { ({} : Disk).makeDirectory cwd with cwd }
  match command with
  | .check request => addCheck disk request
  | .outline path => addTree disk (path.resolve disk.cwd)
  | _ => return disk

/-- What this host knows of itself. It has no server to start. -/
def host : IO Host := do
  let fault := "no server in this build"
  return {
    runtime := "-"
    platform := "-"
    location := (← IO.appPath).toString
    serverFault := some fault
    serving := .unavailable fault
    missing := serverLibraries }

/-- The lines of help. -/
def helpText : String :=
  "Usage: larklint [OPTIONS] COMMAND [ARGS]...\n\n"
    ++ "Name-binding checks for Lark grammars.\n\nCommands:\n"
    ++ "  check    Check grammars for unused and undefined symbols.\n"
    ++ "  outline  Show the terminals and rules a grammar defines or imports.\n"
    ++ "  lsp      Language server commands.\n"

/-- The failure that cut a command short, in words. -/
def describe : Failure → String
  | .settingsNotTable => "settings are not a table"
  | .pattern .absolute => "patterns must be relative"
  | .pattern .innerStars => "two stars must be a whole name"
  | .pattern .tooDeep => "the pattern has too many names"
  | .configEncoding fault => fault.message
  | .document file fault => fault.message file
  | .notOpen uri => "not open: " ++ String.ofList uri
  | .address uri => "malformed address: " ++ String.ofList uri
  | .longNumber => Toml.Fault.message .longInteger
  | .deepNesting => Toml.Fault.message .nesting
  | .path .nul => ReadFault.message {} .nul
  | .path .tooLong => FileFault.cause .tooLong
  | .path .noDirectory => FileFault.cause .missing
  | .path .loop => FileFault.cause .loop
  | .path .denied => FileFault.cause .denied
  | .path .tooDeep => "the path is nested too deeply"
  | .markup .closing => "styled text closes a style that is not open"
  | .markup .arguments => "a handler is given no literal"
  | .markup .number => "a component of a colour is no number"
  | .config file fault => fault.message file
  | .grammar file fault => fault.message file

/-- Prints an answer and gives its exit code. -/
def report : Answer → IO UInt32
  | .help exitCode => do
    IO.print helpText
    return exitCode.toUInt32
  | .usage => do
    IO.eprint helpText
    return 2
  | .done outcome => do
    IO.print outcome.stdout
    IO.eprint outcome.stderr
    if let some failure := outcome.failure then
      IO.eprintln ("Error: " ++ describe failure)
    return outcome.exitCode.toUInt32

end GrammarLint.Program

open GrammarLint in
/-- Runs a command line. -/
def main (args : List String) : IO UInt32 := do
  let command := Command.ofArgs (args.map String.toList)
  let disk ← Program.diskFor command
  Program.report (command.run (← Program.host) disk)
