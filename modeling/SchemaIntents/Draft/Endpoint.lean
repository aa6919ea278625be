import SchemaIntents.Draft
import SchemaIntents.Intent.Service
import SchemaIntents.Resolved.Field

/-!
Drafts for intents on endpoints.
-/
namespace SchemaIntents.Draft

open Resolved

/-- What is checked of the fields of a request or response: their names may be keywords and may
occur again. -/
def messageChecks : FieldChecks :=
  ⟨false, false⟩

/-- What the enumerations of response fields are named after. -/
def responseOwner (i : Intent.AddEndpoint) : String :=
  i.entity.getD "Response"

/-- What the enumerations of request fields are named after. -/
def requestOwner (i : Intent.AddEndpoint) : String :=
  i.entity.getD "" ++ "Request"

/-- What is reported about an entity that need not be there. -/
def mention (c : Context) (entity : Option String) : List Diagnostic :=
  match entity with
  | none => []
  | some name => lookUp c .warning "Entity" name "$.entity"

def authValue (a : Intent.EndpointAuth) : Value :=
  .ofPresent [("required", some (.bool a.required)), ("roles", a.roles.map .texts)]

/-- The draft of a new endpoint. Enumerations of its fields are named after its entity. -/
def addEndpoint (c : Context) (i : Intent.AddEndpoint) : Draft :=
  let (responseNotes, response) := resolveFields messageChecks (responseOwner i) "$.fields" i.fields
  let (requestNotes, request) :=
    resolveFields messageChecks (requestOwner i) "$.request_fields" i.requestFields
  { model := .addEndpoint
    kind := "AddEndpoint"
    body := [("endpoint", .ofPresent [("method", some (.str i.method)),
      ("path", some (.str i.path)),
      ("description", i.description.map .str), ("entity", i.entity.map .str),
      ("responseFields", Value.someList (response.map Resolved.Field.toValue)),
      ("requestFields", Value.someList (request.map Resolved.Field.toValue)),
      ("auth", i.auth.map authValue)])]
    diagnostics := mention c i.entity ++ responseNotes ++ requestNotes
    misuse := (Diagnostic.firstMisuse? (mention c i.entity)).or <|
      (fieldsMisuse? messageChecks (responseOwner i) i.fields).or
        (fieldsMisuse? messageChecks (requestOwner i) i.requestFields) }

/-- A text that may be absent. -/
def textOrNull (s : Option String) : Value :=
  (s.map Value.str).getD .null

/-- Where a value comes from, with the parts that its type needs. -/
def sourceValue (s : Intent.FieldSource) : Value :=
  if s.type = "relation" then
    .ofPresent [("type", some (.str "relation")), ("relation", some (textOrNull s.relation)),
      ("field", (s.field.filter (· != "")).map .str)]
  else if s.type = "field" then
    .obj [("type", .str "field"), ("entity", textOrNull s.entity), ("field", textOrNull s.field)]
  else if s.type = "computed" then
    .obj [("type", .str "computed"), ("expression", .str (s.expression.getD ""))]
  else
    .ofPresent [("type", some (.str "join")), ("foreignKey", s.join.map (.str ·.foreignKey)),
      ("targetEntity", s.join.map (.str ·.targetEntity)),
      ("targetField", s.join.map (.str ·.targetField))]

def updateValue (u : Intent.FieldUpdate) : Value :=
  .obj [("name", .str u.name), ("source", sourceValue u.source)]

/-- The draft of a changed endpoint. -/
def updateEndpoint (i : Intent.UpdateEndpoint) : Draft where
  model := .updateEndpoint
  kind := "UpdateEndpoint"
  body := [("method", .str i.method), ("path", .str i.path),
    ("updates", .ofPresent [("addFields", Value.someList (i.addFields.map updateValue)),
      ("removeFields", Value.someList (i.removeFields.map .str))])]
  diagnostics := []

end SchemaIntents.Draft
