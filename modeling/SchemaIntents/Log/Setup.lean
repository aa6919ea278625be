import SchemaIntents.Log.Format
import SchemaIntents.Settings

/-!
Where log records go: to the console and to a file, each from a level on.
-/
namespace SchemaIntents.Log

/-- The name of the logger that all others belong to. -/
def root : String :=
  "oiml_ir"

/-- The logger of a name: below the root, unless it starts with the root's name. -/
def loggerOf (name : String) : String :=
  if root.toList.isPrefixOf name.toList then name else root ++ "." ++ name

/-- Whether a logger is the root or below it. -/
def belongs (logger : String) : Bool :=
  logger == root || (root ++ ".").toList.isPrefixOf logger.toList

/-- What may be asked for; settings hold where nothing is. -/
structure Request where
  level : Option String := none
  file : Option String := none
  format : Option String := none
  quiet : Option Bool := none

/-- Where records go. `level` is the least level of all records, `console` that of the console. -/
structure Setup where
  level : Nat
  console : Nat
  file : Option (List String)
  format : Option Format

/-- Something that a name of a level stands for and that is no level: its kind, and how it is
displayed. -/
structure NoLevel where
  kind : String
  shown : String
  deriving DecidableEq, Repr

/-- The names next to those of levels that stand for something else: a format of lines, and the ways
in which formats are written. -/
def otherNames : List (String × NoLevel) := [
  ("BASIC_FORMAT", ⟨"str", "'%(levelname)s:%(name)s:%(message)s'"⟩),
  ("_STYLES", ⟨"dict", "\x7b'%': (<class 'logging.PercentStyle'>, " ++
    "'%(levelname)s:%(name)s:%(message)s'), '\x7b': (<class 'logging.StrFormatStyle'>, " ++
    "'\x7blevelname\x7d:\x7bname\x7d:\x7bmessage\x7d'), '$': " ++
    "(<class 'logging.StringTemplateStyle'>, " ++
    "'$\x7blevelname\x7d:$\x7bname\x7d:$\x7bmessage\x7d')\x7d"⟩)]

/-- Why records cannot go anywhere. -/
inductive Fault where
  | settings (f : Settings.Fault)
  | noLevel (name : String)
  /-- The format is to be chosen by a level that is none. -/
  | incomparable (found : NoLevel)
  /-- The level is none. -/
  | wrongLevel (found : NoLevel)
  | noField (message : String)
  | path (f : PathFault)

def Fault.message : Fault → String
  | .settings f => f.message
  | .noLevel name => "module 'logging' has no attribute '" ++ name ++ "'"
  | .incomparable found =>
    "'<=' not supported between instances of '" ++ found.kind ++ "' and 'int'"
  | .wrongLevel found =>
    (if found.kind = "str" then "Unknown level: "
      else "Level not an integer or a valid string: ") ++ found.shown
  | .noField message => message
  | .path f => f.message

/-- The least level of records where a level is set to zero. -/
def fallback : Nat :=
  30

namespace Setup

/-- The folder with a log file, and the names of its place. -/
def openFile (f : Folder) (place : List String) (path : String) :
    Except PathFault (List String × Folder) := do
  let bytes := match f.look place path with
    | .ok (.file bytes) => bytes
    | _ => []
  let g ← f.write place path bytes
  return (match f.locate place path with
    | .place names => names
    | _ => [], g)

/-- The text that counts of two: the first unless it is absent or empty. -/
def given (asked : Option String) (setting : String) : String :=
  match asked with
  | none => setting
  | some s => if s = "" then setting else s

/-- The level of a name, or what else the name stands for. -/
def levelOf (name : String) : Except Fault (Nat ⊕ NoLevel) :=
  match levels.lookup name, otherNames.lookup name with
  | some level, _ => .ok (.inl level)
  | none, some found => .ok (.inr found)
  | none, none => .error (.noLevel name)

/-- The format that is asked for, or the one that goes with a level. -/
def formatOf (asked : Option String) (level : Nat ⊕ NoLevel) : Except Fault (Option Format) :=
  match asked, level with
  | none, .inr found => .error (.incomparable found)
  | asked, _ => (Format.ofText (asked.getD Format.standard)).mapError .noField

/-- The setup that a request and settings give, and the folder with the log file. -/
def start (settings : Except Settings.Fault (Settings × Folder)) (r : Request)
    (place : List String) : Except Fault (Setup × Folder) := do
  let (s, f) ← settings.mapError .settings
  let named ← levelOf (Text.upper (given r.level s.logLevel))
  let format ← formatOf r.format named
  let level ← match named with
    | .inl level => pure level
    | .inr found => throw (.wrongLevel found)
  let console := if r.quiet.getD s.quiet then max level fallback else level
  match (r.file.filter (· != "")).or s.logFile with
  | none => return (⟨level, console, none, format⟩, f)
  | some path =>
    let (names, g) ← (openFile f place path).mapError .path
    return (⟨level, console, some names, format⟩, g)

/-- The least levels of the console and, if there is one, of the file. -/
def handlers (s : Setup) : List Nat :=
  s.console :: (s.file.map fun _ => s.level).toList

/-- Whether a record is passed on. -/
def passes (s : Setup) (r : Record) : Bool :=
  belongs r.logger && (if s.level = 0 then fallback else s.level) ≤ r.level

/-- The lines of records from a level on. A line with halves of pairs is not written, since no bytes
encode it. -/
def lines (s : Setup) (time : String) (least : Nat) (records : List Record) : List String :=
  records.filterMap fun r =>
    if s.passes r && least ≤ r.level then
      (s.format.bind fun f => f.line? time r).filter fun line => (Text.release? line.toList).isSome
    else none

/-- The lines that the console shows. -/
def shown (s : Setup) (time : String) (records : List Record) : List String :=
  s.lines time s.console records

/-- The folder after records went to the log file. -/
def write (s : Setup) (time : String) (records : List Record) (f : Folder) : Folder :=
  match s.file with
  | none => f
  | some names =>
    let before := match f.entry names with
      | .file bytes => bytes
      | _ => []
    let bytes (line : String) := (Text.Utf8.write (line ++ "\n").toList).toOption.getD []
    f.put names (before ++ (s.lines time s.level records).flatMap bytes)

end Setup
end SchemaIntents.Log
