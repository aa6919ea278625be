import SchemaIntents.Folder
import SchemaIntents.Naming
import SchemaIntents.Settings.EnvFile
import SchemaIntents.Shape
import SchemaIntents.Shape.Check
import SchemaIntents.Shape.Dump

/-!
Settings: defaults that hold where a call says nothing. They come from arguments, from environment
variables and from a file `.env`, in this order.
-/
namespace SchemaIntents

/-- The values of all settings. -/
structure Settings where
  projectId : String
  version : String
  model : Option String
  autoIndex : Bool
  tables : Naming.Convention
  outputDir : String
  logLevel : String
  logFile : Option String
  quiet : Bool
  deriving DecidableEq, Repr

namespace Settings

/-- The shape of a spelling of table names. -/
def conventionShape {ν : Type} : Shape ν :=
  .oneOf ["snake_case", "camelCase", "PascalCase"]

/-- The model of settings. -/
def form : Model Unit where
  title := "Settings"
  closed := false
  fields := [
    .defaulted "default_project_id" "default_project_id" .anyText (.str "unknown"),
    .defaulted "default_oiml_version" "default_oiml_version" .anyText (.str "0.1.0"),
    .maybe "model" "model" .anyText,
    .defaulted "auto_index" "auto_index" .flag (.bool true),
    .defaulted "table_naming_convention" "table_naming_convention" conventionShape
      (.str "snake_case"),
    .defaulted "output_dir" "output_dir" .path (.str "output"),
    .defaulted "log_level" "log_level" .anyText (.str "INFO"),
    .maybe "log_file" "log_file" .path,
    .defaulted "log_quiet" "log_quiet" .flag (.bool false)]

def schema : Schema Unit :=
  fun _ => form

/-- The settings that a checked instance holds. -/
def ofInstance (i : Instance Unit) : Settings :=
  let get (name : String) := i.field schema name
  { projectId := (get "default_project_id").text
    version := (get "default_oiml_version").text
    model := (get "model").text?
    autoIndex := (get "auto_index").flag
    tables := (Naming.Convention.ofName? (get "table_naming_convention").text).getD .snake
    outputDir := (get "output_dir").text
    logLevel := (get "log_level").text
    logFile := (get "log_file").text?
    quiet := (get "log_quiet").flag }

def toValue (s : Settings) : Value :=
  .obj [("default_project_id", .str s.projectId), ("default_oiml_version", .str s.version),
    ("model", (s.model.map Value.str).getD .null), ("auto_index", .bool s.autoIndex),
    ("table_naming_convention", .str s.tables.name), ("output_dir", .str s.outputDir),
    ("log_level", .str s.logLevel), ("log_file", (s.logFile.map Value.str).getD .null),
    ("log_quiet", .bool s.quiet)]

/-- The variable of a setting, in any case; of several spellings the latest counts. -/
def envValue? (environment : Environment) (setting : String) : Option String :=
  (environment.reverse.find? fun e => Text.lower e.1 == "oiml_" ++ setting).map (·.2)

/-- The value that is given for a setting. -/
def given? (arguments : List (String × Value)) (environment : Environment) (setting : String) :
    Option Value :=
  (Value.find? setting arguments).or ((envValue? environment setting).map .str)

/-- The settings that arguments and variables give. -/
def ofSources (arguments : List (String × Value)) (environment : Environment) :
    Except (List Issue) Settings :=
  let entries := form.fields.filterMap fun f =>
    (given? arguments environment f.name).map (f.name, ·)
  (Value.check schema (.obj entries) (.model ())).map ofInstance

/-- Why there are no settings. -/
inductive Fault where
  | issues (is : List Issue)
  | undecodable (f : Text.Utf8.Fault)
  | assignment (f : EnvFile.Fault)
  | path (f : PathFault)

def Fault.message : Fault → String
  | .issues is => String.intercalate "; " (is.map Issue.text)
  | .undecodable f => f.message
  | .assignment f => f.message
  | .path f => f.message

/-- A place and up to three places above it, the nearest first. -/
def upward (place : List String) : List (List String) :=
  (List.range 4).filterMap fun n =>
    if n ≤ place.length then some (place.take (place.length - n)) else none

/-- The file `.env` that is in force: the nearest one from a place upward, else the nearest one from
the folder of the program upward. -/
def envFile? (f : Folder) (place : List String) : Option Entry :=
  ((place :: f.home.toList).flatMap upward).map
    (fun names => f.entry (names ++ [".env"])) |>.find? fun
    | .absent => false
    | _ => true

/-- The environment with the variables of the file `.env` in force, unless it says to read none. -/
def environmentWith (environment : Environment) (f : Folder) (place : List String) :
    Except Fault Environment :=
  if EnvFile.isDisabled environment then .ok environment
  else
    match envFile? f place with
    | some (.file bytes) =>
      match fileText bytes with
      | .ok cs => (EnvFile.load environment cs).mapError .assignment
      | .error fault => .error (.undecodable fault)
    | _ => .ok environment

/-- The settings that hold in a folder, and the folder with a place for the log file. -/
def load (arguments : List (String × Value)) (environment : Environment) (f : Folder)
    (place : List String) : Except Fault (Settings × Folder) := do
  let environment ← environmentWith environment f place
  match ofSources arguments environment with
  | .error is => throw (.issues is)
  | .ok s =>
    match s.logFile with
    | none => return (s, f)
    | some path =>
      match f.make place (Text.Path.parent path) with
      | .ok g => return (s, g)
      | .error fault => throw (.path fault)

end Settings
end SchemaIntents
