import SchemaIntents.Ir.Schema.Entity
import SchemaIntents.Naming
import SchemaIntents.Value

/-!
Types of fields: what a loose word from an intent stands for, with the values of an enumeration or
the elements of a list where it needs them.
-/
namespace SchemaIntents.Resolved

/-- Why a type cannot be resolved. -/
inductive TypeFault where
  | noEnumValues
  | emptyEnumValue
  | noElement
  | element (word : String)
  | needsRelation (word : String)
  | unknown (word : String)
  | relationKind (word : String)
  | deleteAction (word : String)
  | reverseKind (word : String)
  deriving DecidableEq, Repr

def TypeFault.message : TypeFault → String
  | noEnumValues => "Enum type requires non-empty enum_values"
  | emptyEnumValue => "Enum values must be non-empty strings"
  | noElement => "Array type requires array_type"
  | element word => "Invalid array element type: " ++ word
  | needsRelation word => "Type '" ++ word ++ "' needs a relation block with a target entity"
  | unknown word => "Unknown field type: " ++ word
  | relationKind word => "Unknown relation kind: " ++ word
  | deleteAction word => "Unknown on_delete action: " ++ word
  | reverseKind word => "Unknown reverse relation kind: " ++ word

/-- The words for primitive types. -/
def scalarWords : List (String × String) := [
  ("string", "String"), ("str", "String"), ("text", "Text"), ("integer", "Int"), ("int", "Int"),
  ("bigint", "BigInt"), ("float", "Float"), ("decimal", "Decimal"), ("boolean", "Boolean"),
  ("bool", "Boolean"), ("datetime", "DateTime"), ("date", "Date"), ("time", "Time"),
  ("uuid", "Uuid"), ("bytes", "Bytes")]

/-- The words for references, which say nothing without a relation. -/
def referenceWords : List String :=
  ["reference", "ref", "relation"]

/-- The words for types that the elements of a list may have. -/
def elementWords : List String :=
  ["string", "str", "text", "integer", "int", "bigint", "float", "decimal", "boolean", "bool",
    "uuid"]

/-- How many rows a reference leads to. -/
inductive Cardinality where
  | one
  | many
  deriving DecidableEq, Repr

def Cardinality.name : Cardinality → String
  | one => "One"
  | many => "Many"

/-- The field that a reference gives to the entity it leads to. -/
structure ReverseSide where
  enabled : Bool
  fieldName : String
  cardinality : Cardinality
  deriving DecidableEq, Repr

/-- A reference to another entity. -/
structure Reference where
  targetEntity : String
  targetField : Option String
  cardinality : Cardinality
  nullable : Bool
  relationName : Option String
  onDelete : Option String
  reverse : Option ReverseSide
  deriving DecidableEq, Repr

/-- A resolved type. -/
inductive FieldType where
  | scalar (kind : String)
  | json
  | enumeration (name : String) (values : List String)
  | array (element : String)
  | reference (r : Reference)
  deriving DecidableEq, Repr

namespace FieldType

def isReference : FieldType → Bool
  | reference _ => true
  | _ => false

/-- The type that a loose word stands for. `enumName` names an enumeration; without it the name is
left empty. -/
def ofWord (word : Option String) (enumValues : Option (List String)) (element : Option String)
    (enumName : Option String) : Except TypeFault FieldType :=
  let shown := word.getD "None"
  let token := Text.normalize (word.getD "")
  match scalarWords.lookup token with
  | some kind => .ok (scalar kind)
  | none =>
    if token = "json" then .ok json
    else if token = "enum" then
      match enumValues.getD [] with
      | [] => .error .noEnumValues
      | values =>
        if values.contains "" then .error .emptyEnumValue
        else .ok (enumeration (enumName.getD "") values)
    else if token = "array" then
      match element.filter (· != "") with
      | none => .error .noElement
      | some e =>
        let t := Text.normalize e
        match if elementWords.contains t then scalarWords.lookup t else none with
        | some kind => .ok (array kind)
        | none => .error (.element e)
    else if referenceWords.contains token then .error (.needsRelation shown)
    else .error (.unknown shown)

end FieldType

def ReverseSide.toValue (r : ReverseSide) : Value :=
  .obj [("enabled", .bool r.enabled), ("fieldName", .str r.fieldName),
    ("cardinality", .str r.cardinality.name)]

def Reference.toValue (r : Reference) : Value :=
  .ofPresent [("kind", some (.str "Reference")), ("targetEntity", some (.str r.targetEntity)),
    ("targetField", r.targetField.map .str), ("cardinality", some (.str r.cardinality.name)),
    ("nullable", some (.bool r.nullable)), ("relationName", r.relationName.map .str),
    ("onDelete", r.onDelete.map .str), ("reverse", r.reverse.map (·.toValue))]

def FieldType.toValue : FieldType → Value
  | scalar kind => .obj [("kind", .str kind)]
  | json => .obj [("kind", .str "Json")]
  | enumeration name values =>
    .obj [("kind", .str "Enum"), ("name", .str name), ("values", .texts values),
      ("source", .str "Inline")]
  | array element =>
    .obj [("kind", .str "Array"), ("elementType", .obj [("kind", .str element)])]
  | reference r => r.toValue

end SchemaIntents.Resolved
