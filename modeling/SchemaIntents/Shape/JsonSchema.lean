import SchemaIntents.Shape

/-!
The JSON Schema of a schema: one definition for each model, with the keys of the wire. Models refer
to one another by their titles.
-/
namespace SchemaIntents

/-- A word with its first letter a capital and the others small. -/
def capitalized (word : List Char) : List Char :=
  match word with
  | [] => []
  | c :: cs => c.toUpper :: cs.map Char.toLower

/-- The words between blanks, each capitalized. -/
def titleOfWords : List Char → List Char → List Char
  | word, [] => capitalized word.reverse
  | word, c :: cs =>
    if c = ' ' then capitalized word.reverse ++ ' ' :: titleOfWords [] cs
    else titleOfWords (c :: word) cs

/-- The title of a key: underscores are blanks, and each word is capitalized. -/
def keyTitle (key : String) : String :=
  String.ofList (titleOfWords [] (key.toList.map fun c => if c = '_' then ' ' else c))

namespace Shape

variable {ν : Type} (schema : Schema ν)

/-- The reference to a model. -/
def reference (name : ν) : String :=
  "#/$defs/" ++ (schema name).title

/-- An entry that is there only with a value. -/
def entryOf {α : Type} (key : String) (make : α → Value) : Option α → List (String × Value)
  | some a => [(key, make a)]
  | none => []

/-- An object of one type with further entries. -/
def typed (type : String) (entries : List (String × Value)) : List (String × Value) :=
  entries ++ [("type", .str type)]

/-- References without repetition, in their first order. -/
def distinct : List String → List String → List String
  | seen, [] => seen.reverse
  | seen, r :: rest => if seen.contains r then distinct seen rest else distinct (r :: seen) rest

/-- The entries of a choice by tag. -/
def taggedEntries (tag : String) (choices : List (String × ν)) : List (String × Value) :=
  let references := choices.map fun c => (c.1, reference schema c.2)
  [("discriminator", .obj [
      ("mapping", .obj (references.map fun r => (r.1, .str r.2))),
      ("propertyName", .str tag)]),
    ("oneOf", .list ((distinct [] (references.map (·.2))).map fun r => .obj [("$ref", .str r)]))]

/-- The entries that describe a shape. -/
def entries : Shape ν → List (String × Value)
  | any => []
  | text least most pattern =>
    typed "string" (entryOf "maxLength" (fun n => Value.int (n : Nat)) most ++
      entryOf "minLength" (fun n => Value.int (n : Nat)) (if least = 0 then none else some least) ++
      entryOf "pattern" (fun p => Value.str p.text) pattern)
  | flag => typed "boolean" []
  | whole b =>
    typed "integer" (entryOf "exclusiveMinimum" .int b.above ++ entryOf "minimum" .int b.least ++
      entryOf "maximum" .int b.most)
  | real => typed "number" []
  | scalar => [("anyOf", .list (["boolean", "integer", "number", "string"].map fun t =>
      .obj [("type", .str t)]))]
  | oneOf [word] => typed "string" [("const", .str word)]
  | oneOf words => typed "string" [("enum", .texts words)]
  | path => typed "string" [("format", .str "path")]
  | names => typed "array" [("items", .obj (typed "string" []))]
  | list least item =>
    typed "array" (("items", .obj item.entries) ::
      entryOf "minItems" (fun n => Value.int (n : Nat)) (if least = 0 then none else some least))
  | mapping => typed "object" [("additionalProperties", .bool true)]
  | table entry => typed "object" [("additionalProperties", .obj entry.entries)]
  | optional inner =>
    [("anyOf", .list [.obj inner.entries, .obj [("type", .str "null")]])]
  | model name => [("$ref", .str (reference schema name))]
  | tagged tag choices => taggedEntries schema tag choices

/-- Whether a shape is a model, or null or a model; such a property needs no title. -/
def isReference : Shape ν → Bool
  | model _ => true
  | optional inner => inner.isReference
  | _ => false

end Shape

namespace Model

variable {ν : Type} (schema : Schema ν)

/-- The property of a field. -/
def property (f : Field ν) : String × Value :=
  let title := if f.shape.isReference then [] else [("title", .str (keyTitle f.wire))]
  let default := Shape.entryOf "default" (fun v => v) f.fallback
  (f.wire, .obj (f.shape.entries schema ++ default ++ title))

/-- The definition of a model. -/
def definition (m : Model ν) : Value :=
  let required := (m.fields.filter (·.fallback.isNone)).map (·.wire)
  .obj ([("additionalProperties", .bool (!m.closed))] ++
    Shape.entryOf "description" .str m.description ++
    [("properties", .obj (m.fields.map (property schema)))] ++
    (if required.isEmpty then [] else [("required", .texts required)]) ++
    [("title", .str m.title), ("type", .str "object")])

end Model
end SchemaIntents
