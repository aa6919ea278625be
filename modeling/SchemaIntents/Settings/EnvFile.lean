import SchemaIntents.Text.Blank

/-!
Files that give values to environment variables, one `NAME=value` a line. A value may stand in
quotes, a comment starts with `#`, and `${NAME}` or `${NAME:-default}` in a value stands for the
value of a variable.
-/
namespace SchemaIntents

/-- Environment variables in the order in which they were set. -/
abbrev Environment :=
  List (String × String)

namespace EnvFile

open Text (isBlank trimWith)

/-- White space inside a line. -/
def isGap (c : Char) : Bool :=
  isBlank c && c != '\n'

/-- The part of a text in quotes up to the closing quote, and what follows it. A backslash takes the
next character with it, and cannot stand before a break. -/
def quoted? (quote : Char) : List Char → Option (List Char × List Char)
  | [] => none
  | ['\\'] => none
  | '\\' :: '\n' :: _ => none
  | '\\' :: c :: rest => (quoted? quote rest).map fun r => ('\\' :: c :: r.1, r.2)
  | c :: rest =>
    if c = quote then some ([], rest) else (quoted? quote rest).map fun r => (c :: r.1, r.2)

/-- The character that a letter after a backslash stands for. -/
def escaped? (quote c : Char) : Option Char :=
  if c = '\\' ∨ c = '\'' then some c
  else if quote = '\'' then none
  else if c = '"' then some c
  else if c = 'a' then some '\x07'
  else if c = 'b' then some '\x08'
  else if c = 'f' then some '\x0c'
  else if c = 'n' then some '\n'
  else if c = 'r' then some '\r'
  else if c = 't' then some '\t'
  else if c = 'v' then some '\x0b'
  else none

/-- A text in quotes with its escapes replaced. -/
def unescape (quote : Char) : List Char → List Char
  | '\\' :: c :: rest =>
    match escaped? quote c with
    | some d => d :: unescape quote rest
    | none => '\\' :: unescape quote (c :: rest)
  | c :: rest => c :: unescape quote rest
  | [] => []

/-- A text up to the first comment that follows white space. -/
def uncommented : List Char → List Char
  | [] => []
  | c :: rest =>
    if isBlank c && (rest.dropWhile isBlank).head? == some '#' then [] else c :: uncommented rest

/-- The name at the start of a line, or none where a comment stands. -/
def name? : List Char → Option (Option String × List Char)
  | '#' :: rest => some (none, '#' :: rest)
  | '\'' :: rest =>
    match rest.span (· != '\'') with
    | (c :: name, '\'' :: more) => some (some (String.ofList (c :: name)), more)
    | _ => none
  | cs =>
    match cs.span fun c => c != '=' && c != '#' && !isBlank c with
    | ([], _) => none
    | (name, more) => some (some (String.ofList name), more)

/-- The value after an equals sign, with what follows it. Without quotes it is the text up to a
comment or the end of the line, without white space around it. -/
def value? (cs : List Char) : Option (String × List Char) :=
  match cs.dropWhile isGap with
  | '\'' :: rest => (quoted? '\'' rest).map fun r => (String.ofList (unescape '\'' r.1), r.2)
  | '"' :: rest => (quoted? '"' rest).map fun r => (String.ofList (unescape '"' r.1), r.2)
  | _ =>
    let r := cs.span (· != '\n')
    some (String.ofList (trimWith isBlank (uncommented r.1)), r.2)

/-- What follows the end of a line, after a comment if there is one. -/
def lineEnd? (cs : List Char) : Option (List Char) :=
  let cs := match cs.dropWhile isGap with
    | '#' :: rest => rest.dropWhile (· != '\n')
    | rest => rest
  match cs with
  | [] => some []
  | '\n' :: rest => some rest
  | _ => none

/-- What follows the word `export` at the start of a line. -/
def afterExport (cs : List Char) : List Char :=
  match cs with
  | 'e' :: 'x' :: 'p' :: 'o' :: 'r' :: 't' :: c :: rest =>
    if isGap c then rest.dropWhile isGap else cs
  | _ => cs

/-- What a reader finds, or the place where it gave up. -/
def orAt {α : Type} (place : List Char) : Option α → Except (List Char) α
  | some a => .ok a
  | none => .error place

/-- The variable that a line sets, and what follows the line, or the place where the line can no
longer be read. A name without an equals sign sets nothing. -/
def binding (cs : List Char) :
    Except (List Char) (Option (String × Option String) × List Char) := do
  let start := afterExport cs
  let (name, rest) ← orAt start (name? start)
  match rest.dropWhile isGap with
  | '=' :: rest =>
    let (value, rest) ← orAt (rest.dropWhile isGap) (value? rest)
    let more ← orAt rest (lineEnd? rest)
    return (name.map fun n => (n, some value), more)
  | rest =>
    let more ← orAt rest (lineEnd? rest)
    return (name.map fun n => (n, none), more)

/-- The variables that the lines set; what cannot be read is passed over to the end of its line.
Each line takes one unit of the fuel. -/
def bindingsFrom : Nat → List Char → List (String × Option String)
  | 0, _ => []
  | fuel + 1, cs =>
    match cs.dropWhile isBlank with
    | [] => []
    | c :: line =>
      match binding (c :: line) with
      | .ok (set, rest) => set.toList ++ bindingsFrom fuel rest
      | .error place => bindingsFrom fuel ((place.dropWhile (· != '\n')).drop 1)

/-- The variables that a file sets, before references are replaced. -/
def bindings (cs : List Char) : List (String × Option String) :=
  bindingsFrom (cs.length + 1) cs

/-- The reference that follows a dollar sign and an opening brace: its name, its default and what
follows it. -/
def reference? (cs : List Char) : Option (String × String × List Char) :=
  let r := cs.span fun c => c != '\x7d' && c != ':'
  match r.2 with
  | '\x7d' :: rest => some (String.ofList r.1, "", rest)
  | ':' :: '-' :: more =>
    match more.span (· != '\x7d') with
    | (fallback, '\x7d' :: rest) => some (String.ofList r.1, String.ofList fallback, rest)
    | _ => none
  | _ => none

/-- A text with the references in it replaced; each character takes one unit of the fuel. -/
def expandFrom (value : String → Option String) : Nat → List Char → List Char
  | 0, cs => cs
  | _ + 1, [] => []
  | fuel + 1, '$' :: '\x7b' :: rest =>
    match reference? rest with
    | some (name, fallback, more) =>
      ((value name).getD fallback).toList ++ expandFrom value fuel more
    | none => '$' :: expandFrom value fuel ('\x7b' :: rest)
  | fuel + 1, c :: rest => c :: expandFrom value fuel rest

/-- A text with the references in it replaced. -/
def expand (value : String → Option String) (s : String) : String :=
  String.ofList (expandFrom value s.length s.toList)

/-- The value of a variable: the one that was there before, else the one that the file gave it. A
variable that the file names without a value is empty. -/
def valueOf (before : Environment) (set : List (String × Option String)) (name : String) :
    Option String :=
  match before.lookup name with
  | some v => some v
  | none => (set.lookup name).map (·.getD "")

/-- The variables of a file with references replaced, the latest setting first. -/
def resolve (before : Environment) :
    List (String × Option String) → List (String × Option String) → List (String × Option String)
  | set, [] => set
  | set, (name, value) :: rest =>
    resolve before ((name, value.map (expand (valueOf before set))) :: set) rest

/-- Why a variable cannot be set. -/
inductive Fault where
  /-- Its name or its value holds the character that ends a text. -/
  | holdsNul
  /-- Its name holds an equals sign. -/
  | illegalName
  deriving DecidableEq, Repr

def Fault.message : Fault → String
  | .holdsNul => "embedded null byte"
  | .illegalName => "illegal environment variable name"

/-- Why a variable cannot be set, if it cannot. -/
def fault? (name value : String) : Option Fault :=
  if name.toList.contains '\x00' || value.toList.contains '\x00' then some .holdsNul
  else if name.toList.contains '=' then some .illegalName
  else none

/-- The variable that says that no file is to be read. -/
def switch : String :=
  "PYTHON_DOTENV_DISABLED"

/-- The small letter that a letter of the words of the switch counts as. -/
def folded (c : Char) : Char :=
  if c = 'ſ' then 's' else c.toLower

/-- Whether an environment says that no file is to be read. -/
def isDisabled (environment : Environment) : Bool :=
  match environment.lookup switch with
  | some v => ["1", "true", "t", "yes", "y"].contains (String.ofList (v.toList.map folded))
  | none => false

/-- The text of a file without the mark of its byte order. -/
def withoutMark : List Char → List Char
  | '\uFEFF' :: cs => cs
  | cs => cs

/-- The variables that a file adds to an environment: what was there stays as it is. -/
def additions (before : Environment) (cs : List Char) : Environment :=
  let set := resolve before [] (bindings (withoutMark cs))
  let names := (set.reverse.map (·.1)).eraseDups.filter fun n => (before.lookup n).isNone
  names.filterMap fun n => ((set.lookup n).bind id).map (n, ·)

/-- The environment after a file. -/
def load (before : Environment) (cs : List Char) : Except Fault Environment :=
  let added := additions before cs
  match added.findSome? fun e => fault? e.1 e.2 with
  | some fault => .error fault
  | none => .ok (before ++ added)

end EnvFile
end SchemaIntents
