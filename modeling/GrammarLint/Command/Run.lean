import GrammarLint.Check.Outline
import GrammarLint.Command.Basic
import GrammarLint.Project.Discovery
import GrammarLint.Project.Version
import GrammarLint.Report.Findings
import GrammarLint.Report.Grid
import GrammarLint.Text.Markup

/-!
# Running commands

A command is run on a disk and on what the host knows of itself, and ends in an
outcome: the exit code and what is printed. Errors that are shown end a command
with code 2, findings that are errors with code 1.
-/

namespace GrammarLint

/-- How a server is reached. -/
inductive Transport where
  | standard
  | network (host : String) (tcpPort : Int)
  deriving DecidableEq, Repr, Inhabited

/-- How serving ends. -/
inductive Serving where
  | finished
  | interrupted
  | unavailable (reason : String)
  deriving DecidableEq, Repr, Inhabited

/-- What the host knows of itself. -/
structure Host where
  runtime : String := ""
  platform : String := ""
  location : String := ""
  /-- Why the server cannot be loaded, if it cannot. -/
  serverFault : Option String := none
  /-- How serving ends once it has started. -/
  serving : Serving := .finished
  /-- The libraries that cannot be loaded. -/
  missing : List String := []
  deriving Inhabited

/-- How a command ends. -/
structure Outcome where
  exitCode : Nat := 0
  stdout : String := ""
  stderr : String := ""
  /-- The failure that cut the command short, if one did. -/
  failure : Option Failure := none
  /-- The transport of a server that was started. -/
  transport : Option Transport := none
  deriving Inhabited

/-- What a command line leads to. -/
inductive Answer where
  | help (exitCode : Nat)
  | usage
  | done (outcome : Outcome)
  deriving Inhabited

namespace Outcome

/-- A plain line, without colours. -/
def plainLine (s : String) : String :=
  String.ofList (Terminal.plain s.toList) ++ "\n"

/-- The end of a command with a line of error. -/
def refused (exitCode : Nat) (log message : String) : Outcome :=
  { exitCode, stderr := log ++ plainLine ("Error: " ++ message) }

/-- The end of a command that failed. -/
def failed (log : String) (failure : Failure) : Outcome :=
  match failure.shown? with
  | some error => refused 2 log error.text
  | none => { exitCode := 1, stderr := log, failure := some failure }

end Outcome

/-! ## Checking -/

/-- A line of the log. -/
def logLine (part message : String) : String :=
  "DEBUG:" ++ toolName ++ ".core." ++ part ++ ":" ++ message ++ "\n"

/-- The log of checking one grammar: the size of its table and the
number of all findings. -/
def checkLog (lines : List Text) : String :=
  logLine "symbols"
      ("Symbol table built with " ++
        toString (SymbolTable.ofLines lines).size ++ " symbols")
    ++ logLine "scanner"
      ("Scan produced " ++ toString (validate lines).length ++ " diagnostics")

/-- Checks files in order up to one that cannot be read. -/
def Config.lintAll (config : Config) (disk : Disk) :
    List Path → String × Except Failure (List (Path × List Diagnostic))
  | [] => ("", .ok [])
  | path :: paths =>
    match disk.readGrammar path with
    | .error failure => ("", .error failure)
    | .ok lines =>
      let (log, results) := config.lintAll disk paths
      (checkLog lines ++ log,
        results.map ((path, config.filter (validate lines)) :: ·))

/-- The log and the results of a check: every path once, where it came first. -/
def CheckRequest.results (request : CheckRequest) (disk : Disk) :
    String × Except Failure (List (Path × List Diagnostic)) :=
  let start : Except Failure Path := match request.paths with
    | path :: _ => .ok path
    | [] => (disk.workingDirectory.map Path.absolute).mapError Failure.path
  match start.bind fun start => Config.resolve disk start request.config with
  | .error failure => ("", .error failure)
  | .ok config =>
    let loaded := match config.file with
      | some file => logLine "config" ("Loaded config from " ++ file.toString)
      | none => ""
    match (config.withDisabled request.disable).bind fun config =>
        (config.collect disk request.paths).map (config, ·) with
    | .error failure => (loaded, .error failure)
    | .ok (config, files) =>
      let (log, results) := config.lintAll disk files
      (loaded ++ log, results.map List.eraseDups)

/-- The forms of a report. -/
inductive ReportFormat where
  | human
  | console
  | json
  deriving DecidableEq, Repr, Inhabited

/-- The form with this name. -/
def ReportFormat.ofName? (name : Text) : Option ReportFormat :=
  if name = "human".toList then some .human
  else if name = "vscode".toList then some .console
  else if name = "json".toList then some .json
  else none

/-- Prints to a terminal without colours: markup is rendered and laid out. -/
def Printer.terminal : Printer Markup.Fault where
  escape := Markup.escape
  print := fun t => (Markup.render t).map Terminal.layOut

/-- The report in a form. -/
def ReportFormat.write (findings : List Findings) :
    ReportFormat → Except Failure String
  | .human =>
    match Findings.human .terminal findings with
    | .ok report => .ok report
    | .error fault => .error (.markup fault)
  | .console => .ok (Findings.console findings)
  | .json => .ok (Findings.json findings)

/-- Runs `check`. -/
def CheckRequest.run (request : CheckRequest) (disk : Disk) : Outcome :=
  match ReportFormat.ofName? request.format with
  | none =>
      .refused 2 "" ("unknown format '" ++ String.ofList request.format ++ "'")
  | some format =>
    let (log, results) := request.results disk
    let log := if request.verbose then log else ""
    match results with
    | .error failure => .failed log failure
    | .ok results =>
      let findings : Except Failure (List Findings) :=
        results.mapM fun (path, ds) =>
          (disk.display path).map fun shown => ⟨shown.toText, ds⟩
      match findings.bind fun findings =>
          (format.write findings).map (findings, ·) with
      | .error failure => .failed log failure
      | .ok (findings, report) =>
        { exitCode := if Findings.errors findings = 0 then 0 else 1,
          stdout := report, stderr := log }

/-! ## Outlines -/

/-- Runs `outline`. -/
def runOutline (disk : Disk) (path : Path) : Outcome :=
  match disk.readGrammar path with
  | .error failure => .failed "" failure
  | .ok lines =>
    let title := (disk.display path).bind fun shown =>
      (Markup.render shown.toText).mapError Failure.markup
    match title with
    | .error failure => .failed "" failure
    | .ok title =>
      let drawn := Terminal.layOut title :: Grid.draw (outline lines)
      { stdout := String.ofList (drawn.flatMap (· ++ ['\n'])) }

/-! ## Servers -/

/-- How to get what is missing. -/
def installHint : String := "Install with: pip install " ++ toolName

/-- Runs `lsp run`. -/
def ServeRequest.run (request : ServeRequest) (host : Host) : Outcome :=
  if !request.stdio && !request.tcp then
    .refused 2 "" "--no-stdio requires --tcp"
  else
    let transport : Transport :=
      if request.tcp then .network "127.0.0.1" request.tcpPort else .standard
    let opening :=
      if request.tcp then
        "Starting " ++ toolName ++ " LSP server on TCP port " ++
          toString request.tcpPort ++ "...\n"
      else ""
    let unavailable := fun (reason : String) (transport : Option Transport) =>
      { Outcome.refused 1 "" ("LSP dependencies not installed: " ++ reason ++
        "\n" ++ installHint) with
        stdout := opening, transport }
    match (if request.tcp then host.serverFault else none), host.serving with
    | some reason, _ => unavailable reason none
    | none, .unavailable reason => unavailable reason (some transport)
    | none, .interrupted =>
      { stdout := opening ++ "\nLSP server stopped.\n",
        transport := some transport }
    | none, .finished => { stdout := opening, transport := some transport }

/-- The libraries of the server. -/
def serverLibraries : List String := ["pygls", "lsprotocol"]

/-- The line of a library; its version is not known. -/
def libraryLine (name : String) : String :=
  name ++ ":" ++ String.ofList (List.replicate (13 - name.length) ' ') ++
    "unknown\n"

/-- Runs `lsp check`. -/
def runVerify (host : Host) : Outcome :=
  let (missing, present) := serverLibraries.partition host.missing.contains
  let listed := String.join (present.map libraryLine)
  if missing.isEmpty then
    { stdout := listed ++ "\nAll LSP dependencies installed.\n" }
  else
    { exitCode := 1
      stdout := listed
      stderr := "\nMissing dependencies: " ++ ", ".intercalate missing ++
        "\n" ++ installHint ++ "\n" }

/-- Runs `--version`. -/
def runVersion (host : Host) : Outcome :=
  let server := match host.serverFault with
    | none => "✓ Available"
    | some _ => "✗ Not available (install with: pip install " ++ toolName ++ ")"
  { stdout :=
      toolName ++ " version " ++ Version.current
        ++ "\n\nEnvironment:\n  Python:        " ++ host.runtime
        ++ "\n  Platform:      " ++ host.platform
        ++ "\n  Location:      " ++ host.location
        ++ "\n\nFeatures:\n  LSP Server:    " ++ server ++ "\n" }

/-- Runs a command. -/
def Command.run (host : Host) (disk : Disk) : Command → Answer
  | .help exitCode => .help exitCode
  | .usage => .usage
  | .version => .done (runVersion host)
  | .check request => .done (request.run disk)
  | .outline path => .done (runOutline disk path)
  | .serve request => .done (request.run host)
  | .verify => .done (runVerify host)

end GrammarLint
