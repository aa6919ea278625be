import SchemaIntents.Intent.Schema
import SchemaIntents.Shape.Check
import SchemaIntents.Shape.Dump

/-!
Checked parts of intents, and what intents say about fields and relations.
-/
namespace SchemaIntents.Intent

/-- A checked part of an intent. -/
abbrev Part :=
  Instance Name

/-- Checks a value against a model of intents. -/
def parse (name : Name) (v : Value) : Checked Name :=
  v.check schema (.model name)

namespace Part

variable (p : Part)

/-- The field of a part. -/
def get (name : String) : Part :=
  p.field schema name

/-- The text of a field, if it has one. -/
def text? (name : String) : Option String :=
  Instance.text? (get p name)

/-- The text of a field, or the empty text. -/
def text (name : String) : String :=
  Instance.text (get p name)

/-- The text of a field that is there and not empty. -/
def some? (name : String) : Option String :=
  (text? p name).filter (· != "")

def flag? (name : String) : Option Bool :=
  Instance.flag? (get p name)

def flag (name : String) : Bool :=
  Instance.flag (get p name)

/-- The whole number of a field, if it has one. -/
def whole? (name : String) : Option Int :=
  match get p name with
  | .plain (.int n) => some n
  | _ => none

/-- The real number of a field, if it has one. -/
def real? (name : String) : Option Binary64 :=
  match get p name with
  | .plain (.float x) => some x
  | _ => none

/-- The entries of a free mapping, if a field holds one. -/
def mapping? (name : String) : Option (List (String × Value)) :=
  match get p name with
  | .plain v => v.entries?
  | _ => none

/-- The items of a field, if it holds a list. -/
def items? (name : String) : Option (List Part) :=
  Instance.items? (get p name)

/-- The texts of a field, if it holds a list. -/
def texts? (name : String) : Option (List String) :=
  (items? p name).map fun is => is.map Instance.text

/-- A field that is not null. -/
def part? (name : String) : Option Part :=
  Instance.some? (get p name)

end Part

/-- A free remark on a field or relation: a name with what belongs to it. -/
structure Attribute where
  name : String
  args : List (String × Value)

namespace Attribute

def ofPart (p : Part) : Attribute :=
  ⟨p.text "name", (p.mapping? "args").getD []⟩

/-- The first attribute with one of some names. -/
def find? (attributes : List Attribute) (names : List String) : Option Attribute :=
  attributes.find? fun a => names.contains a.name

/-- Whether an attribute has one of some names. -/
def has (attributes : List Attribute) (names : List String) : Bool :=
  attributes.any fun a => names.contains a.name

end Attribute

/-- The attributes of a part. -/
def Part.attributes (p : Part) : List Attribute :=
  ((p.items? "attributes").getD []).map .ofPart

/-- The other side of a relation. -/
structure Reverse where
  enabled : Bool
  fieldName : String
  kind : Option String

/-- What a relation block says, on a field or on its own. `targetField` is the field that a foreign
key leads to. -/
structure Relation where
  targetEntity : String
  kind : String
  targetField : Option String
  attributes : List Attribute
  reverse : Option Reverse
  emitMigration : Bool

def Reverse.ofPart (p : Part) : Reverse :=
  ⟨p.flag "enabled", p.text "field_name", p.text? "kind"⟩

def Relation.ofPart (p : Part) : Relation where
  targetEntity := p.text "target_entity"
  kind := p.text "kind"
  targetField := (p.part? "foreign_key").map (·.text "target_field")
  attributes := p.attributes
  reverse := (p.part? "reverse").map .ofPart
  emitMigration := p.flag "emit_migration"

/-- How a field is shown to the outside. -/
structure Exposure where
  shown : Bool
  endpoints : Option (List String)

def Exposure.ofPart (p : Part) : Exposure :=
  ⟨p.flag "include", p.texts? "endpoints"⟩

/-- A field as an author wrote it. Its type is a loose word until it is resolved. -/
structure AuthoredField where
  name : String
  type : String
  required : Option Bool
  unique : Option Bool
  default : Value
  maxLength : Option Int
  minLength : Option Int
  pattern : Option String
  min : Option Binary64
  max : Option Binary64
  arrayType : Option String
  enumValues : Option (List String)
  enumName : Option String
  attributes : List Attribute
  api : Option Exposure
  relation : Option Relation
  description : Option String
  tags : List String

namespace AuthoredField

def ofPart (p : Part) : AuthoredField where
  name := p.text "name"
  type := p.text "type"
  required := p.flag? "required"
  unique := p.flag? "unique"
  default := (p.get "default").value
  maxLength := p.whole? "max_length"
  minLength := p.whole? "min_length"
  pattern := p.some? "pattern"
  min := p.real? "min"
  max := p.real? "max"
  arrayType := p.some? "array_type"
  enumValues := p.texts? "enum_values"
  enumName := p.some? "enum_name"
  attributes := p.attributes
  api := (p.part? "api").map .ofPart
  relation := (p.part? "relation").map .ofPart
  description := p.some? "description"
  tags := (p.texts? "tags").getD []

/-- Whether the field has an attribute with one of some names. -/
def has (f : AuthoredField) (names : List String) : Bool :=
  Attribute.has f.attributes names

/-- Whether the field may be empty as far as its own words go. -/
def optional (f : AuthoredField) : Bool :=
  f.required != some true

end AuthoredField

/-- The fields that a part lists under a name. -/
def Part.fields (p : Part) (name : String) : List AuthoredField :=
  ((p.items? name).getD []).map .ofPart

end SchemaIntents.Intent
