import GrammarLint.Text.Basic

/-!
# Reading options

Options start with a dash. A long option stands alone, with its value after an
equals sign or in the next argument; short options may share a dash, and the
rest of the argument is the value of the first that takes one. A value may be
any argument. Two dashes end the options; a single dash is an argument. Where
options and arguments do not mix the first argument ends the options.
-/

namespace GrammarLint

/-- An option of a command. -/
structure OptionSpec where
  /-- The name it is known by afterwards. -/
  key : String
  /-- Its long name, with the dashes. -/
  long : Text
  /-- Its letter, if it has one. -/
  short : Option Char := none
  takesValue : Bool := false
  deriving DecidableEq, Repr, Inhabited

/-- An option that was given, with its value if it takes one. -/
structure Given where
  key : String
  value : Text := []
  deriving DecidableEq, Repr, Inhabited

/-- What was given on a command line: options in order, and arguments. -/
structure Arguments where
  options : List Given := []
  rest : List Text := []
  deriving DecidableEq, Repr, Inhabited

namespace Arguments

/-- The last value given for an option. -/
def value? (a : Arguments) (key : String) : Option Text :=
  (a.options.reverse.find? fun g => g.key == key).map Given.value

/-- All values given for an option. -/
def values (a : Arguments) (key : String) : List Text :=
  (a.options.filter fun g => g.key == key).map Given.value

/-- The option was given. -/
def has (a : Arguments) (key : String) : Bool :=
  a.options.any fun g => g.key == key

/-- The argument is read as an option. -/
def isOption : Text → Bool
  | '-' :: _ :: _ => true
  | _ => false

/-- Reads short options behind one dash: what is given, and the option
whose value comes next. -/
def readShort (specs : List OptionSpec) :
    Text → Option (List Given × Option String)
  | [] => some ([], none)
  | c :: cs =>
    match specs.find? fun s => s.short == some c with
    | none => none
    | some s =>
      if s.takesValue then
        if cs.isEmpty then some ([], some s.key) else some ([⟨s.key, cs⟩], none)
      else (readShort specs cs).map fun (given, waiting) =>
        (⟨s.key, []⟩ :: given, waiting)

/-- Reads an argument that is an option. -/
def readOption (specs : List OptionSpec) (arg : Text) :
    Option (List Given × Option String) :=
  let name := arg.takeWhile (· != '=')
  match specs.find? fun s => s.long == name with
  | some s =>
    match s.takesValue, arg.drop name.length with
    | true, _ :: value => some ([⟨s.key, value⟩], none)
    | true, [] => some ([], some s.key)
    | false, _ :: _ => none
    | false, [] => some ([⟨s.key, []⟩], none)
  | none => if ['-', '-'].isPrefixOf arg then none else readShort specs arg.tail

/-- Reads a command line; the option in front, if any, waits for its value.
Options that are not known, and options without their value, cannot be read. -/
def readFrom (specs : List OptionSpec) (mixed : Bool) :
    Option String → List Text → Option Arguments
  | some _, [] => none
  | some key, value :: args =>
    (readFrom specs mixed none args).map fun a =>
      { a with options := ⟨key, value⟩ :: a.options }
  | none, [] => some {}
  | none, arg :: args =>
    if arg = ['-', '-'] then some { rest := args }
    else if isOption arg then
      match readOption specs arg with
      | none => none
      | some (given, waiting) =>
        (readFrom specs mixed waiting args).map fun a =>
          { a with options := given ++ a.options }
    else if mixed then
      (readFrom specs mixed none args).map fun a =>
        { a with rest := arg :: a.rest }
    else some { rest := arg :: args }

/-- Reads a command line. -/
def read? (specs : List OptionSpec) (mixed : Bool) (args : List Text) :
    Option Arguments :=
  readFrom specs mixed none args

end Arguments

end GrammarLint
