import SchemaIntents.Shape.Issue

/-!
Shapes of values. A shape says which values fit and what they become; a schema gives the models that
shapes refer to by name. Names are drawn from a type of their own, so that a schema is total.
-/
namespace SchemaIntents

/-- Bounds of a whole number. -/
structure Bounds where
  above : Option Int := none
  least : Option Int := none
  most : Option Int := none
  deriving DecidableEq, Repr

/-- A shape over the model names `ν`. -/
inductive Shape (ν : Type) where
  /-- Any value, kept as it is. -/
  | any
  /-- A text within a length and of a form. -/
  | text (least : Nat) (most : Option Nat) (pattern : Option Pattern)
  | flag
  | whole (bounds : Bounds)
  | real
  /-- A truth value, a whole or real number or a text, kept as it is. -/
  | scalar
  /-- One of some words. -/
  | oneOf (words : List String)
  /-- A file path, brought into its shortest form. -/
  | path
  /-- A collection of names. -/
  | names
  | list (least : Nat) (item : Shape ν)
  /-- A mapping with text keys and any values. -/
  | mapping
  /-- A mapping with text keys whose values have a shape. -/
  | table (entry : Shape ν)
  /-- Null, or a value of the shape. -/
  | optional (inner : Shape ν)
  | model (name : ν)
  /-- A model chosen by the value of a key. -/
  | tagged (tag : String) (choices : List (String × ν))
  deriving Repr

/-- A text of any length. -/
abbrev Shape.anyText {ν : Type} : Shape ν :=
  .text 0 none none

/-- A text that is not empty. -/
abbrev Shape.someText {ν : Type} : Shape ν :=
  .text 1 none none

/-- A text of a form. -/
abbrev Shape.formed {ν : Type} (p : Pattern) : Shape ν :=
  .text 0 none (some p)

/-- A field of a model: its name, the key that stands for it on the wire, its shape, the value it
has when it is absent, and the levels by which its value lies deeper. A field without a value of its
own is required. -/
structure Field (ν : Type) where
  name : String
  wire : String
  shape : Shape ν
  fallback : Option Value
  level : Nat := 0
  deriving Repr

/-- A rule that ties the fields of a model together. -/
inductive Rule where
  /-- A relation to one entity has a foreign key, and its reverse has the inverse kind. -/
  | relationShape
  /-- A source has the parts that its type needs. -/
  | sourceParts
  deriving DecidableEq, Repr

/-- A model: its title, what is said of it, whether other keys are refused, the levels that it takes
itself, its fields, and a rule for a value whose fields all fit. Only what may hold itself, and what
leads to it, takes levels. -/
structure Model (ν : Type) where
  title : String
  description : Option String := none
  closed : Bool := true
  level : Nat := 0
  fields : List (Field ν)
  rule : Option Rule := none
  deriving Repr

/-- The models that names stand for. -/
abbrev Schema (ν : Type) :=
  ν → Model ν

/-- A value that fits a shape. A model has, field by field in its order, whether the field was given
and its value. -/
inductive Instance (ν : Type) where
  | plain (v : Value)
  | list (items : List (Instance ν))
  | table (entries : List (String × Instance ν))
  | model (name : ν) (given : List Bool) (values : List (Instance ν))
  deriving Repr, Inhabited

namespace Instance

variable {ν : Type} (schema : Schema ν)

/-- The instance that a fallback value stands for. -/
def ofValue : Value → Instance ν
  | .list items => .list (items.map .plain)
  | v => .plain v

def isNull : Instance ν → Bool
  | plain .null => true
  | _ => false

/-- The value of the field with a name. -/
def field (i : Instance ν) (name : String) : Instance ν :=
  match i with
  | model m _ values =>
    match ((schema m).fields.zip values).find? (·.1.name == name) with
    | some (_, v) => v
    | none => plain .null
  | _ => plain .null

/-- The value of a plain instance. -/
def value : Instance ν → Value
  | plain v => v
  | _ => .null

/-- The text of an instance, if it is one. -/
def text? : Instance ν → Option String
  | plain (.str s) => some s
  | _ => none

/-- The text of an instance, or the empty text. -/
def text (i : Instance ν) : String :=
  i.text?.getD ""

/-- The truth value of an instance, if it is one. -/
def flag? : Instance ν → Option Bool
  | plain (.bool b) => some b
  | _ => none

/-- The truth value of an instance, or false. -/
def flag (i : Instance ν) : Bool :=
  i.flag?.getD false

/-- The items of a list, or none. -/
def items : Instance ν → List (Instance ν)
  | list is => is
  | _ => []

/-- The items of a list that is there. -/
def items? : Instance ν → Option (List (Instance ν))
  | list is => some is
  | _ => none

/-- The entries of a table, or none. -/
def entries : Instance ν → List (String × Instance ν)
  | table es => es
  | _ => []

/-- An instance that is not null. -/
def some? (i : Instance ν) : Option (Instance ν) :=
  if i.isNull then none else some i

end Instance

namespace Field

variable {ν : Type}

/-- A field that must be there. -/
def required (name wire : String) (shape : Shape ν) : Field ν :=
  { name, wire, shape, fallback := none }

/-- A field that may be absent or null. -/
def maybe (name wire : String) (shape : Shape ν) : Field ν :=
  { name, wire, shape := .optional shape, fallback := some .null }

/-- A field that has a value of its own while it is absent. -/
def defaulted (name wire : String) (shape : Shape ν) (value : Value) : Field ν :=
  { name, wire, shape, fallback := some value }

/-- A field that has but one value. -/
def constant (name wire word : String) : Field ν :=
  { name, wire, shape := .oneOf [word], fallback := some (.str word) }

/-- The field with its value one level deeper. -/
def deeper (f : Field ν) : Field ν :=
  { f with level := f.level + 1 }

end Field
end SchemaIntents
