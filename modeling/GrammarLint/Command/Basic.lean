import GrammarLint.Command.Arguments
import GrammarLint.File.Path
import GrammarLint.Text.Integer

/-!
# Commands

What a command line asks for. A command line that cannot be read gives the
usage; help and version are answered before anything else is looked at, the one
that comes first of the two.
-/

namespace GrammarLint

/-- What `check` is asked for. -/
structure CheckRequest where
  paths : List Path := []
  config : Option Path := none
  format : Text := "human".toList
  disable : List Text := []
  verbose : Bool := false
  deriving DecidableEq, Repr, Inhabited

/-- How a server is to talk. -/
structure ServeRequest where
  stdio : Bool := true
  tcp : Bool := false
  tcpPort : Int := 2087
  deriving DecidableEq, Repr, Inhabited

/-- What a command line asks for. -/
inductive Command where
  | help (exitCode : Nat)
  | usage
  | version
  | check (request : CheckRequest)
  | outline (path : Path)
  | serve (request : ServeRequest)
  | verify
  deriving DecidableEq, Repr, Inhabited

namespace Command

/-! ## Options -/

/-- The option for help, which every command has. -/
def helpOption : OptionSpec := { key := "help", long := "--help".toList }

/-- The options in front of a command. -/
def rootOptions : List OptionSpec :=
  [{ key := "version", long := "--version".toList }, helpOption]

/-- The options of `check`. -/
def checkOptions : List OptionSpec := [
  { key := "config", long := "--config".toList, short := some 'c',
    takesValue := true },
  { key := "format", long := "--format".toList, short := some 'f',
    takesValue := true },
  { key := "disable", long := "--disable".toList, short := some 'd',
    takesValue := true },
  { key := "verbose", long := "--verbose".toList, short := some 'v' },
  helpOption]

/-- The options of `lsp run`. -/
def serveOptions : List OptionSpec := [
  { key := "stdio", long := "--stdio".toList },
  { key := "no-stdio", long := "--no-stdio".toList },
  { key := "tcp", long := "--tcp".toList },
  { key := "tcp-port", long := "--port".toList, takesValue := true },
  helpOption]

/-! ## Commands with arguments -/

/-- Reads a command; help wins over everything but options that cannot be
read. -/
def ofOptions (specs : List OptionSpec) (command : Arguments → Command)
    (args : List Text) : Command :=
  match Arguments.read? specs true args with
  | none => usage
  | some a => if a.has "help" then help 0 else command a

/-- Reads paths, none of which may hold a null character. -/
def pathsOf? (written : List Text) : Option (List Path) :=
  let paths := written.map Path.ofText
  if paths.any Path.hasNul then none else some paths

/-- The arguments of `check`. -/
def ofCheck (a : Arguments) : Command :=
  match pathsOf? a.rest, pathsOf? (a.value? "config").toList with
  | some paths, some config =>
    check {
      paths
      config := config.head?
      format := (a.value? "format").getD "human".toList
      disable := a.values "disable"
      verbose := a.has "verbose" }
  | _, _ => usage

/-- The one argument of `outline`. -/
def ofOutline (a : Arguments) : Command :=
  match pathsOf? a.rest with
  | some [path] => outline path
  | _ => usage

/-- The last of the two options for standard input and output counts. -/
def stdioOf (a : Arguments) : Bool :=
  match a.options.reverse.find? fun g =>
    g.key == "stdio" || g.key == "no-stdio" with
  | some g => g.key == "stdio"
  | none => true

/-- The options of `lsp run`, which takes no arguments. -/
def ofServe (a : Arguments) : Command :=
  let tcpPort := match a.value? "tcp-port" with
    | some written => Integer.read? written
    | none => some 2087
  match tcpPort, a.rest with
  | some tcpPort, [] =>
      serve { stdio := stdioOf a, tcp := a.has "tcp", tcpPort }
  | _, _ => usage

/-- The arguments of `lsp check`: none. -/
def ofVerify (a : Arguments) : Command :=
  if a.rest.isEmpty then verify else usage

/-! ## Groups of commands -/

/-- What the options in front of a command ask for. -/
def eager? (a : Arguments) : Option Command :=
  a.options.head?.map fun g => if g.key == "help" then help 0 else version

/-- Reads the options of a group and hands the rest to the command of that name.
Without anything the group shows its help. A name that looks like an option,
which only two dashes can bring about, is read once more as one. -/
def ofGroup (specs : List OptionSpec)
    (find : Text → Option (List Text → Command)) (args : List Text) : Command :=
  match args, Arguments.read? specs false args with
  | [], _ => help 2
  | _, none => usage
  | _, some a =>
    match eager? a, a.rest with
    | some command, _ => command
    | none, [] => usage
    | none, name :: rest =>
      match find name with
      | some command => command rest
      | none =>
          ((Arguments.read? specs false (name :: rest)).bind eager?).getD usage

/-- The commands below `lsp`. -/
def findServer (name : Text) : Option (List Text → Command) :=
  if name = "run".toList then some (ofOptions serveOptions ofServe)
  else if name = "check".toList then some (ofOptions [helpOption] ofVerify)
  else none

/-- The commands of the program. -/
def findRoot (name : Text) : Option (List Text → Command) :=
  if name = "check".toList then some (ofOptions checkOptions ofCheck)
  else if name = "outline".toList then some (ofOptions [helpOption] ofOutline)
  else if name = "lsp".toList then some (ofGroup [helpOption] findServer)
  else none

/-- What a command line asks for. -/
def ofArgs (args : List Text) : Command := ofGroup rootOptions findRoot args

end Command

end GrammarLint
