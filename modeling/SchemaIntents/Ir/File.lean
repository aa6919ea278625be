import SchemaIntents.Folder
import SchemaIntents.Ir.Envelope
import SchemaIntents.Json.Indented
import SchemaIntents.Json.Reader
import SchemaIntents.Json.Sorted
import SchemaIntents.Value.LongNumber

/-!
Envelopes in files: a JSON text with one envelope or a list of them.
-/
namespace SchemaIntents.Ir

/-- What a file of envelopes holds. -/
inductive Contents where
  | one (envelope : Part)
  | many (envelopes : List Part)

namespace Contents

def envelopes : Contents → List Part
  | one p => [p]
  | many ps => ps

/-- The contents as JSON, or the first thing in them that JSON cannot say. -/
def json : Contents → Except JsonFault Value
  | one p => p.json
  | many ps => (ps.mapM Part.json).map .list

/-- Checks plain data: a list holds many envelopes, all else is one. -/
def ofValue (v : Value) : Except (List Issue) Contents :=
  match v with
  | .list _ => (parseList v).map fun ps => .many ps.items
  | v => (parse v).map .one

end Contents

/-- Why no envelopes are loaded. -/
inductive LoadFault where
  | absent (path : String)
  | blank (path : String)
  | malformed (path : String) (problem : Json.Problem) (line column offset : Nat)
  | tooManyDigits (count : Nat)
  | tooDeep (b : Json.Bracket)
  | issues (is : List Issue)
  | unreadable (f : TextFault)

def LoadFault.message : LoadFault → String
  | .absent path => "IR file not found: " ++ path
  | .blank path => "IR file is empty: " ++ path
  | .malformed path p line column offset =>
    "Failed to load IR from " ++ path ++ ": " ++
      (Json.ReadFault.malformed p line column offset).message
  | .tooManyDigits n => Json.tooManyDigitsMessage n
  | .tooDeep b => Json.tooDeepMessage b
  | .issues is => s!"Invalid IR: {is.length} issue(s)"
  | .unreadable f => f.message

/-- The envelopes in a text with blanks around it. -/
def ofText (path : String) (cs : List Char) : Except LoadFault Contents :=
  match Text.trimWith Text.isBlank cs with
  | [] => .error (.blank path)
  | cs =>
    match Json.read (String.ofList cs) with
    | .error (.malformed p line column offset) => .error (.malformed path p line column offset)
    | .error (.tooManyDigits n) => .error (.tooManyDigits n)
    | .error (.tooDeep b) => .error (.tooDeep b)
    | .ok v =>
      match Contents.ofValue v with
      | .ok c => .ok c
      | .error is => .error (.issues is)

/-- The envelopes in the file at a path. -/
def load (f : Folder) (place : List String) (path : String) : Except LoadFault Contents :=
  let shown := Text.Path.normalize path
  match f.text? place path with
  | .error fault => .error (.unreadable fault)
  | .ok none => .error (.absent shown)
  | .ok (some cs) => ofText shown cs

/-- The bytes of a JSON file. -/
def fileBytes (v : Value) : Except Text.Utf8.HalfFault (List UInt8) :=
  Text.Utf8.write (Json.indented v ++ "\n").toList

/-- The bytes of a file with the schema of envelopes. Properties stand there in the order of the
model, all else by key. -/
def schemaBytes : List UInt8 :=
  (fileBytes (Json.sorted ["properties", "default"] "" jsonSchema)).toOption.getD []

/-- Why envelopes are not saved. -/
inductive SaveFault where
  | json (f : JsonFault)
  /-- A whole number has more digits than are written. -/
  | tooManyDigits
  | path (f : PathFault)
  /-- A text has halves of pairs. -/
  | unencodable (f : Text.Utf8.HalfFault)
  deriving DecidableEq, Repr

def SaveFault.message : SaveFault → String
  | .json f => f.message
  | .tooManyDigits => longNumberMessage
  | .path f => f.message
  | .unencodable f => f.message

/-- Writes a value to the file at a path whose folder is there. A number that is too long is found
before the file is opened; where halves of pairs are found, the file is there and has nothing in
it. -/
def writeFile (v : Value) (f : Folder) (place : List String) (path : String) :
    Folder × Except SaveFault Unit :=
  if v.hasLongNumber then (f, .error .tooManyDigits)
  else
    let (bytes, outcome) := match fileBytes v with
      | .ok bytes => (bytes, .ok ())
      | .error fault => ([], .error (.unencodable fault))
    match f.write place path bytes with
    | .ok g => (g, outcome)
    | .error fault => (f, .error (.path fault))

/-- Writes envelopes to the file at a path. What JSON cannot say is found before any folder is
added. -/
def Contents.save (c : Contents) (f : Folder) (place : List String) (path : String) :
    Folder × Except SaveFault Unit :=
  match c.json with
  | .error fault => (f, .error (.json fault))
  | .ok v =>
    match f.make place (Text.Path.parent path) with
    | .error fault => (f, .error (.path fault))
    | .ok g => writeFile v g place path

end SchemaIntents.Ir
