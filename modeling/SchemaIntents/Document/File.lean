import SchemaIntents.Document
import SchemaIntents.Folder
import SchemaIntents.Json.Reader
import SchemaIntents.Yaml.Load

/-!
Documents in files: the suffix of a file tells whether it holds YAML or JSON, and what it holds has
to be a mapping.
-/
namespace SchemaIntents.Document

/-- Why a file holds no document. -/
inductive FileProblem where
  | absent
  | blank
  | malformedYaml
  | malformedJson (problem : Json.Problem) (line column offset : Nat)
  /-- It holds a value of another kind than a mapping. -/
  | otherKind (kind : String)
  deriving DecidableEq, Repr

def FileProblem.message (path : String) : FileProblem → String
  | .absent => "Intent file not found: " ++ path
  | .blank => "Intent file is empty: " ++ path
  | .malformedYaml => "Invalid YAML in " ++ path
  | .malformedJson p line column offset =>
    "Invalid JSON in " ++ path ++ ": " ++ (Json.ReadFault.malformed p line column offset).message
  | .otherKind kind => "Intent file " ++ path ++ " must contain a mapping, got " ++ kind

/-- Why no document is loaded. -/
inductive LoadFault where
  /-- The file holds no document. -/
  | rejected (path : String) (p : FileProblem)
  /-- There is no text to read. -/
  | unreadable (f : TextFault)
  /-- A whole number has too many digits, or a scalar spells no value of its type. -/
  | scalar (f : Yaml.ScalarFault)
  /-- A list or mapping stands inside too many others; of JSON it is known which of the two. -/
  | tooDeep (b : Option Json.Bracket)
  deriving DecidableEq, Repr

def LoadFault.message : LoadFault → String
  | .rejected path p => p.message path
  | .unreadable f => f.message
  | .scalar f => f.message
  | .tooDeep none => Yaml.tooDeepMessage
  | .tooDeep (some b) => Json.tooDeepMessage b

/-- Whether a path names a YAML file. -/
def isYaml (path : String) : Bool :=
  [".yaml", ".yml"].contains (Text.lower (Text.Path.suffix path))

/-- The value that a YAML text stands for. -/
def valueOfYaml (path : String) (cs : List Char) : Except LoadFault Value :=
  match Yaml.load cs with
  | .ok v => .ok v
  | .error .malformed => .error (.rejected path .malformedYaml)
  | .error (.scalar f) => .error (.scalar f)
  | .error .tooDeep => .error (.tooDeep none)

/-- The value that a JSON text stands for. -/
def valueOfJson (path : String) (cs : List Char) : Except LoadFault Value :=
  match Json.read (String.ofList cs) with
  | .ok v => .ok v
  | .error (.malformed p line column offset) =>
    .error (.rejected path (.malformedJson p line column offset))
  | .error (.tooManyDigits n) => .error (.scalar (.tooManyDigits n))
  | .error (.tooDeep b) => .error (.tooDeep (some b))

/-- The document in a text, as it stands there. -/
def ofText (path : String) (cs : List Char) : Except LoadFault Value := do
  if cs.all Text.isBlank then throw (.rejected path .blank)
  let v ← if isYaml path then valueOfYaml path cs else valueOfJson path cs
  match v with
  | .obj _ => return v
  | .map _ => return v
  | v => throw (.rejected path (.otherKind v.kindName))

/-- The document in the file at a path, as it stands there. -/
def load (f : Folder) (place : List String) (path : String) : Except LoadFault Value :=
  let shown := Text.Path.normalize path
  match f.text? place path with
  | .error fault => .error (.unreadable fault)
  | .ok none => .error (.rejected shown .absent)
  | .ok (some cs) => ofText shown cs

end SchemaIntents.Document
