import SchemaIntents.Intent.Part

/-!
Intents on entities, their fields and the relations between them.
-/
namespace SchemaIntents.Intent

/-- An index over fields of an entity. -/
structure Index where
  name : Option String
  fields : List String
  unique : Bool
  type : Option String

def Index.ofPart (p : Part) : Index :=
  ⟨p.some? "name", (p.texts? "fields").getD [], p.flag "unique", p.some? "type"⟩

/-- The rows that an entity starts with. -/
structure Seed where
  mode : String
  environments : List String
  count : Option Int
  generators : List (String × Value)
  fixturesPath : Option String

def Seed.ofPart (p : Part) : Seed where
  mode := p.text "mode"
  environments := (p.texts? "environments").getD []
  count := p.whole? "count"
  generators := (p.get "generators").entries.map fun e => (e.1, e.2.value)
  fixturesPath := p.some? "fixtures_path"

/-- Words that say where an entity belongs and how it is shown. -/
structure Labels where
  space : Option String
  package : Option String
  singular : Option String
  plural : Option String
  description : Option String
  tags : List String

def Labels.ofPart (p : Part) : Labels where
  space := p.some? "namespace"
  package := p.some? "module"
  singular := p.some? "label_singular"
  plural := p.some? "label_plural"
  description := p.some? "description"
  tags := (p.texts? "tags").getD []

/-- A new entity with its fields, constraints and seeds. -/
structure AddEntity where
  entity : String
  fields : List AuthoredField
  unique : List (List String)
  indexes : List Index
  labels : Labels
  tableName : Option String
  tableSchema : Option String
  tenantColumn : Option String
  seed : Option Seed

def AddEntity.ofPart (p : Part) : AddEntity where
  entity := p.text "entity"
  fields := p.fields "fields"
  unique := ((p.items? "unique").getD []).map fun group => group.items.map Instance.text
  indexes := ((p.items? "indexes").getD []).map .ofPart
  labels := .ofPart p
  tableName := p.some? "table_name"
  tableSchema := p.some? "table_schema"
  tenantColumn := p.some? "tenant_column"
  seed := (p.part? "seed").map .ofPart

/-- New fields of an entity. -/
structure AddField where
  entity : String
  fields : List AuthoredField

def AddField.ofPart (p : Part) : AddField :=
  ⟨p.text "entity", p.fields "fields"⟩

/-- Fields that an entity loses. -/
structure RemoveField where
  entity : String
  fields : List String

def RemoveField.ofPart (p : Part) : RemoveField :=
  ⟨p.text "entity", (p.texts? "fields").getD []⟩

/-- An entity that is dropped, with what depends on it if `cascade` is set. -/
structure RemoveEntity where
  entity : String
  cascade : Bool

def RemoveEntity.ofPart (p : Part) : RemoveEntity :=
  ⟨p.text "entity", p.flag "cascade"⟩

/-- A new name for an entity. -/
structure RenameEntity where
  oldName : String
  newName : String

def RenameEntity.ofPart (p : Part) : RenameEntity :=
  ⟨p.text "from_", p.text "to"⟩

/-- A new name for a field of an entity. -/
structure RenameField where
  entity : String
  oldName : String
  newName : String

def RenameField.ofPart (p : Part) : RenameField :=
  ⟨p.text "entity", p.text "from_", p.text "to"⟩

/-- A field of one entity that refers to another entity. -/
structure AddRelation where
  sourceEntity : String
  fieldName : String
  relation : Relation

def AddRelation.ofPart (p : Part) : AddRelation :=
  let relation := p.get "relation"
  ⟨Part.text relation "source_entity", Part.text relation "field_name", .ofPart relation⟩

end SchemaIntents.Intent
