/-!
Commands and how they are spelled on the command line. Options and operands may stand in any order;
after two hyphens all else is an operand.
-/
namespace SchemaIntents.Cli

/-- An option by its names. -/
structure Switch where
  long : String
  short : Option Char := none
  takesValue : Bool := true
  deriving DecidableEq, Repr

/-- What a command line gives: options with their values, in order, and operands. -/
structure Given where
  options : List (String × Option String) := []
  operands : List String := []
  deriving DecidableEq, Repr

namespace Given

def withOption (s : Switch) (value : Option String) (g : Given) : Given :=
  { g with options := (s.long, value) :: g.options }

def withOperand (operand : String) (g : Given) : Given :=
  { g with operands := operand :: g.operands }

def has (g : Given) (long : String) : Bool :=
  g.options.any fun o => o.1 == long

/-- The values of an option, in order. -/
def values (g : Given) (long : String) : List String :=
  g.options.filterMap fun o => if o.1 == long then o.2 else none

/-- The value of an option; of several the last counts. -/
def value? (g : Given) (long : String) : Option String :=
  (g.values long).getLast?

end Given

/-- What one argument says about options. -/
inductive Reading where
  /-- It gives options, all of them complete. -/
  | whole (options : List (Switch × Option String))
  /-- It gives options, and the next argument is the value of the last. -/
  | open (options : List (Switch × Option String)) (last : Switch)

/-- Reads an option with a long name; a value may follow an equals sign. -/
def readLong (known : List Switch) (arg : List Char) : Option Reading :=
  let name := String.ofList (arg.takeWhile (· != '='))
  match known.find? fun s => s.long == name, arg.dropWhile (· != '=') with
  | none, _ => none
  | some s, [] => some (if s.takesValue then .open [] s else .whole [(s, none)])
  | some s, _ :: value =>
    if s.takesValue then some (.whole [(s, some (String.ofList value))]) else none

/-- Reads options with short names. A value follows its option at once or in the next argument. -/
def readShort (known : List Switch) : List Char → Option Reading
  | [] => some (.whole [])
  | c :: rest => do
    let s ← known.find? fun s => s.short == some c
    if s.takesValue then
      if rest.isEmpty then return .open [] s
      else return .whole [(s, some (String.ofList rest))]
    else
      match ← readShort known rest with
      | .whole options => return .whole ((s, none) :: options)
      | .open options last => return .open ((s, none) :: options) last

/-- Reads an argument that starts with a hyphen. -/
def readOptions (known : List Switch) (arg : String) : Option Reading :=
  match arg.toList with
  | '-' :: '-' :: rest => readLong known ('-' :: '-' :: rest)
  | _ :: rest => readShort known rest
  | [] => none

/-- Whether an argument is read for options: it starts with a hyphen and has more. -/
def isOption (arg : String) : Bool :=
  match arg.toList with
  | '-' :: _ :: _ => true
  | _ => false

def Given.withOptions (options : List (Switch × Option String)) (g : Given) : Given :=
  options.foldr (fun o g => g.withOption o.1 o.2) g

/-- What arguments give, if all their options are known and complete. -/
def read (known : List Switch) : List String → Option Given
  | [] => some {}
  | arg :: rest =>
    if arg = "--" then some { operands := rest }
    else if isOption arg then
      match readOptions known arg with
      | none => none
      | some (.whole options) => (read known rest).map (Given.withOptions options)
      | some (.open options last) =>
        match rest with
        | [] => none
        | value :: rest =>
          (read known rest).map (Given.withOptions (options ++ [(last, some value)]))
    else (read known rest).map (Given.withOperand arg)

/-- What a transformation is asked for. -/
structure Job where
  file : String
  out : Option String := none
  projectId : Option String := none
  intentId : Option String := none
  entities : List String := []
  model : Option String := none
  quiet : Bool := false
  deriving DecidableEq, Repr

/-- What a command line asks for. -/
inductive Command where
  | transform (job : Job)
  | validate (file : String) (quiet : Bool)
  | exportSchema (out : String)
  | help
  deriving DecidableEq, Repr

namespace Command

def helpSwitch : Switch :=
  { long := "--help", takesValue := false }

def quietSwitch : Switch :=
  { long := "--quiet", short := some 'q', takesValue := false }

/-- The options of each command by its name. -/
def switches : String → Option (List Switch)
  | "transform" => some [
      { long := "--out", short := some 'o' }, { long := "--project-id" }, { long := "--intent-id" },
      { long := "--entity", short := some 'e' }, { long := "--model" }, quietSwitch, helpSwitch]
  | "validate-ir" => some [quietSwitch, helpSwitch]
  | "export-schema" => some [helpSwitch]
  | _ => none

/-- The paths that a command is given. -/
def paths : Command → List String
  | transform job => job.file :: job.out.toList
  | validate file _ => [file]
  | exportSchema out => [out]
  | help => []

/-- The command of a name with one operand. -/
def make (name : String) (g : Given) (operand : String) : Command :=
  let quiet := g.has "--quiet"
  match name with
  | "transform" => .transform {
      file := operand
      out := g.value? "--out"
      projectId := g.value? "--project-id"
      intentId := g.value? "--intent-id"
      entities := g.values "--entity"
      model := g.value? "--model"
      quiet }
  | "validate-ir" => .validate operand quiet
  | _ => .exportSchema operand

/-- The command of a name that arguments spell. Each command has one operand. -/
def ofGiven (name : String) (g : Given) : Option Command :=
  if g.has "--help" then some .help
  else
    match g.operands with
    | [operand] => some (make name g operand)
    | _ => none

/-- The command that a name and arguments spell. -/
def ofNamed (name : String) (args : List String) : Option Command := do
  ofGiven name (← read (← switches name) args)

/-- The command that arguments spell; help may be asked for before any command. -/
def ofArguments : List String → Option Command
  | [] => none
  | "--help" :: _ => some .help
  | "--" :: name :: args => ofNamed name args
  | name :: args => ofNamed name args

end Command
end SchemaIntents.Cli
