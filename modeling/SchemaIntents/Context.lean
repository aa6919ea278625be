import SchemaIntents.Settings
import SchemaIntents.Value.Misuse

/-!
What is known when an intent is resolved: whose intent it is, which version of the language it is
written in, which entities there are, and how far the resolution may go on its own.
-/
namespace SchemaIntents

/-- Choices that change how intents are resolved. -/
structure Options where
  autoIndex : Bool
  tables : Naming.Convention
  deriving DecidableEq, Repr

/-- What is known of a project. While `known` is none, every entity may exist. -/
structure Context where
  intentId : String
  projectId : String
  version : String
  model : Option String
  known : Option (List String)
  options : Options
  deriving DecidableEq, Repr

namespace Context

/-- Whether an entity exists as far as is known. -/
def mayExist (c : Context) (name : String) : Bool :=
  match c.known with
  | none => true
  | some names => names.contains name

/-- The context with other known entities. -/
def withKnown (c : Context) (known : Option (List String)) : Context :=
  { c with known }

/-- The models of a context and its options. -/
inductive Name where
  | context
  | options
  deriving DecidableEq, Repr

/-- The models of a context, whose defaults are settings. -/
def schema (s : Settings) : Schema Name
  | .context => {
      title := "TransformContext"
      closed := false
      fields := [
        .required "intent_id" "intent_id" .someText,
        .required "project_id" "project_id" .someText,
        .defaulted "oiml_version" "oiml_version" (.formed .version) (.str s.version),
        .maybe "model" "model" .anyText,
        .maybe "existing_entities" "existing_entities" .names,
        .defaulted "options" "options" (.model .options) .null] }
  | .options => {
      title := "TransformOptions"
      closed := false
      fields := [
        .defaulted "auto_index" "auto_index" .flag (.bool s.autoIndex),
        .defaulted "table_naming_convention" "table_naming_convention" Settings.conventionShape
          (.str s.tables.name)] }

/-- Why arguments make no context. -/
inductive Fault where
  | issues (is : List Issue)
  | settings (f : Settings.Fault)
  | misuse (m : Misuse)

def Fault.message : Fault → String
  | .issues is => String.intercalate "; " (is.map Issue.text)
  | .settings f => f.message
  | .misuse m => m.message

/-- Whether a value can be a member of a set. -/
def isHashable : Value → Bool
  | .list _ => false
  | .obj _ => false
  | .map _ => false
  | .set _ => false
  | .loop _ => false
  | .pair k v => isHashable k && isHashable v
  | _ => true

/-- Each value once, in the order of first occurrence. -/
def distinct : List Value → List Value
  | [] => []
  | v :: vs => v :: (distinct vs).filter fun w => !v.sameKey w

/-- A collection of names as a list of different values; a mapping stands for its keys. -/
def collection (v : Value) : Except Fault Value :=
  match v with
  | .null => .ok .null
  | .str s => .ok (.str s)
  | .bytes b => .ok (.bytes b)
  | .obj entries => .ok (.texts (entries.map (·.1)))
  | .map entries => .ok (.list (entries.map (·.1)))
  | .set items => .ok (.list items)
  | .list items =>
    match items.find? fun i => !isHashable i with
    | some i => .error (.misuse (.unhashable i.kindName))
    | none => .ok (.list (distinct items))
  | v => .error (.misuse (.notIterable v.qualifiedKindName))

/-- The options that settings give. -/
def defaultOptions (s : Settings) : Value :=
  .obj [("auto_index", .bool s.autoIndex), ("table_naming_convention", .str s.tables.name)]

/-- Whether an argument leaves something of the options to the settings. -/
def leavesOptions (options : Option Value) : Bool :=
  match options with
  | none => true
  | some (.obj entries) =>
    (Value.find? "auto_index" entries).isNone ||
      (Value.find? "table_naming_convention" entries).isNone
  | some _ => false

def ofInstance (s : Settings) (i : Instance Name) : Context :=
  let get (name : String) := i.field (schema s) name
  let option (name : String) := (get "options").field (schema s) name
  { intentId := (get "intent_id").text
    projectId := (get "project_id").text
    version := (get "oiml_version").text
    model := (get "model").text?
    known := (get "existing_entities").items?.map fun names => names.map Instance.text
    options :=
      { autoIndex := (option "auto_index").flag
        tables := (Naming.Convention.ofName? (option "table_naming_convention").text).getD
          .snake } }

/-- Settings where they are needed; a fault in them counts only then. -/
def settingsIf (needed : Bool) (settings : Except Settings.Fault Settings) :
    Except Fault (Option Settings) :=
  if needed then
    match settings with
    | .ok s => .ok (some s)
    | .error f => .error (.settings f)
  else .ok none

/-- Settings as they are where nobody changed any. -/
def plainSettings : Settings :=
  ⟨"unknown", "0.1.0", none, true, .snake, "output", "INFO", none, false⟩

/-- The context that arguments give, with settings where they say nothing. -/
def ofArguments (settings : Except Settings.Fault Settings) (arguments : List (String × Value)) :
    Except Fault Context := do
  let forVersion ← settingsIf (Value.find? "oiml_version" arguments).isNone settings
  let known ← collection ((Value.find? "existing_entities" arguments).getD .null)
  let options := Value.find? "options" arguments
  let forOptions ← settingsIf (leavesOptions options) settings
  let s := (forVersion.or forOptions).getD plainSettings
  let given := Value.put "options" (options.getD (defaultOptions s))
    (Value.put "existing_entities" known arguments)
  match Value.check (schema s) (.obj given) (.model .context) with
  | .ok i => return ofInstance s i
  | .error is => throw (.issues is)

/-- The origin of an envelope that is made at a moment. -/
def provenance (c : Context) (now : DateTime) : Value :=
  .obj ([("intentId", .str c.intentId), ("projectId", .str c.projectId),
    ("generatedAt", .str now.millisecondText), ("sourceIntentVersion", .str c.version)] ++
    ((c.model.filter (· != "")).map fun m => ("model", Value.str m)).toList)

end Context
end SchemaIntents
