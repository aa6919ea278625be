import SchemaIntents.Diagnostic
import SchemaIntents.Ir.Schema
import SchemaIntents.Shape.Check
import SchemaIntents.Shape.Dump
import SchemaIntents.Shape.JsonSchema

/-!
Envelopes of the intermediate representation: reading them from plain data, writing them again, and
the JSON Schema that says what both sides agree on.
-/
namespace SchemaIntents.Ir

/-- A checked part of the intermediate representation. -/
abbrev Part :=
  Instance Name

/-- The envelope that a plain value holds. -/
def parse (v : Value) : Checked Name :=
  v.check schema envelope

/-- The envelopes that a plain list holds. -/
def parseList (v : Value) : Checked Name :=
  v.check schema (.list 0 envelope)

namespace Part

/-- The part as JSON, with the keys of the wire; what is null is left out. -/
def json (p : Part) : Except JsonFault Value :=
  Instance.json schema p

/-- The field of a part. -/
def get (p : Part) (name : String) : Part :=
  p.field schema name

/-- The kind of an envelope. -/
def kind (p : Part) : String :=
  (Part.get p "kind").text

/-- The diagnostic that a part holds. -/
def diagnostic (p : Part) : Diagnostic where
  code := (Part.get p "code").text
  severity := (Severity.ofName? (Part.get p "severity").text).getD .error
  message := (Part.get p "message").text
  path := (Part.get p "path").text

/-- The diagnostics of an envelope. -/
def diagnostics (p : Part) : List Diagnostic :=
  (Part.get p "diagnostics").items.map Part.diagnostic

end Part

/-- The definition of a model. -/
def definition (n : Name) : Value :=
  (schema n).definition schema

/-- The definitions of all models by their titles. -/
def definitions : List (String × Value) :=
  Name.all.map fun n => ((schema n).title, definition n)

/-- The JSON Schema of envelopes without the definitions it refers to. -/
def jsonSchemaHead : List (String × Value) :=
  envelope.entries schema

/-- The JSON Schema of envelopes. -/
def jsonSchema : Value :=
  .obj (("$defs", .obj definitions) :: jsonSchemaHead)

end SchemaIntents.Ir
