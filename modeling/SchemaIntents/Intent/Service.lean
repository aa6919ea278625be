import SchemaIntents.Intent.Part

/-!
Intents on what stands around the data: endpoints, capabilities and components.
-/
namespace SchemaIntents.Intent

/-- Who may call an endpoint. -/
structure EndpointAuth where
  required : Bool
  roles : Option (List String)

def EndpointAuth.ofPart (p : Part) : EndpointAuth :=
  ⟨p.flag "required", p.texts? "roles"⟩

/-- A new endpoint with the fields that it takes and answers. -/
structure AddEndpoint where
  method : String
  path : String
  description : Option String
  entity : Option String
  fields : List AuthoredField
  requestFields : List AuthoredField
  auth : Option EndpointAuth

def AddEndpoint.ofPart (p : Part) : AddEndpoint where
  method := p.text "method"
  path := p.text "path"
  description := p.some? "description"
  entity := p.some? "entity"
  fields := p.fields "fields"
  requestFields := p.fields "request_fields"
  auth := (p.part? "auth").map .ofPart

/-- The tables and keys that a joined value comes through. -/
structure Join where
  foreignKey : String
  targetEntity : String
  targetField : String

def Join.ofPart (p : Part) : Join :=
  ⟨p.text "foreign_key", p.text "target_entity", p.text "target_field"⟩

/-- Where the value of a response field comes from. -/
structure FieldSource where
  type : String
  relation : Option String
  entity : Option String
  field : Option String
  expression : Option String
  join : Option Join

def FieldSource.ofPart (p : Part) : FieldSource where
  type := p.text "type"
  relation := p.text? "relation"
  entity := p.text? "entity"
  field := p.text? "field"
  expression := p.text? "expression"
  join := (p.part? "join").map .ofPart

/-- A field that an endpoint gains and where its value comes from. -/
structure FieldUpdate where
  name : String
  source : FieldSource

def FieldUpdate.ofPart (p : Part) : FieldUpdate :=
  ⟨p.text "name", .ofPart (p.get "source")⟩

/-- Fields that an endpoint gains and loses. -/
structure UpdateEndpoint where
  method : String
  path : String
  addFields : List FieldUpdate
  removeFields : List String

def UpdateEndpoint.ofPart (p : Part) : UpdateEndpoint :=
  let updates := p.get "updates"
  { method := p.text "method"
    path := p.text "path"
    addFields := ((Part.items? updates "add_field").getD []).map .ofPart
    removeFields := (Part.texts? updates "remove_field").getD [] }

/-- An endpoint that a capability brings with it. -/
structure CapabilityEndpoint where
  method : Option String
  path : Option String
  group : Option String
  description : Option String

def CapabilityEndpoint.ofPart (p : Part) : CapabilityEndpoint :=
  ⟨p.text? "method", p.text? "path", p.text? "group", p.text? "description"⟩

/-- A capability of the application, such as email, with its free-form configuration. -/
structure AddCapability where
  capability : String
  framework : String
  provider : Option String
  entity : Option String
  config : List (String × Value)
  endpoints : List CapabilityEndpoint
  buckets : List Value
  plans : List Value

def AddCapability.ofPart (p : Part) : AddCapability where
  capability := p.text "capability"
  framework := p.text "framework"
  provider := p.some? "provider"
  entity := p.some? "entity"
  config := (p.mapping? "config").getD []
  endpoints := ((p.items? "endpoints").getD []).map .ofPart
  buckets := ((p.items? "buckets").getD []).map Instance.value
  plans := ((p.items? "plans").getD []).map Instance.value

/-- A component of the user interface. -/
structure AddComponent where
  component : String
  template : String
  entity : Option String
  displayFields : List String
  route : Option String

def AddComponent.ofPart (p : Part) : AddComponent where
  component := p.text "component"
  template := p.text "template"
  entity := p.some? "entity"
  displayFields := (p.texts? "display_fields").getD []
  route := p.some? "route"

end SchemaIntents.Intent
