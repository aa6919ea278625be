import SchemaIntents.Draft
import SchemaIntents.Intent.Data
import SchemaIntents.Resolved.Entity

/-!
Drafts for intents on whole entities.
-/
namespace SchemaIntents.Draft

open Resolved

/-- The table of a new entity: the given one, or one that is made from the name and noted. -/
def tableOf (c : Context) (i : Intent.AddEntity) : List Diagnostic × String :=
  match i.tableName with
  | some name => ([], name)
  | none =>
    let name := Naming.table c.options.tables i.entity
    ([⟨"IR002", .info, "Inferred table name '" ++ name ++ "'", "$.entity"⟩], name)

/-- The storage of a new entity. -/
def storage (i : Intent.AddEntity) (table : String) (keys : List String) : Value :=
  .ofPresent [("kind", some (.str "RelationalTable")), ("tableName", some (.str table)),
    ("primaryKey", some (primaryKey keys)), ("schema", i.tableSchema.map .str),
    ("tenantScoping", i.tenantColumn.map fun column =>
      .obj [("mode", .str "Column"), ("column", .str column)])]

/-- A new entity. -/
def entity (c : Context) (i : Intent.AddEntity) (table : String) (fields : List Resolved.Field)
    (constraints : List Constraint) : Value :=
  let keys := (fields.filter (·.primary)).map (·.name)
  .ofPresent [("name", some (.str i.entity)), ("storage", some (storage i table keys)),
    ("fields", some (.list (fields.map Resolved.Field.toValue))),
    ("createdByIntent", some (.str c.intentId)), ("updatedByIntents", some (.list [])),
    ("namespace", i.labels.space.map .str), ("module", i.labels.package.map .str),
    ("labelSingular", i.labels.singular.map .str), ("labelPlural", i.labels.plural.map .str),
    ("description", i.labels.description.map .str),
    ("tags", Value.someList (i.labels.tags.map .str)),
    ("constraints", Value.someList (constraints.map Constraint.toValue)),
    ("seed", i.seed.map seedValue)]

/-- What is reported about a new entity, and the entity. -/
def resolveEntity (c : Context) (i : Intent.AddEntity) : List Diagnostic × Value :=
  let (tableNotes, table) := tableOf c i
  let (fieldNotes, fields) := resolveFields ⟨true, true⟩ i.entity "$.fields" i.fields
  let fields := fields.map (markPrimary i.fields)
  let (indexNotes, constraints) := constraints c.options.autoIndex i fields
  (reservedWarning "Entity name" i.entity "$.entity" ++ tableNotes ++ fieldNotes ++
      primaryNote i.fields fields ++ primaryError ((fields.filter (·.primary)).map (·.name)) ++
      referenceErrors i ++ indexNotes,
    entity c i table fields constraints)

/-- The draft of a new entity. -/
def addEntity (c : Context) (i : Intent.AddEntity) : Draft :=
  let (reported, entity) := resolveEntity c i
  { model := .addEntity
    kind := "AddEntity"
    body := [("entity", entity)]
    diagnostics := reported
    notes := [.debug "oiml_ir.transform.transformers.add_entity"
      ("add_entity: resolving '" ++ i.entity ++ s!"' ({i.fields.length} field(s))")]
    misuse := fieldsMisuse? ⟨true, true⟩ i.entity i.fields }

/-- The draft of a removed entity; that its rows go with it is only a warning. -/
def removeEntity (c : Context) (i : Intent.RemoveEntity) : Draft where
  model := .removeEntity
  kind := "RemoveEntity"
  body := [("entityName", .str i.entity), ("cascade", .bool i.cascade)]
  diagnostics := lookUp c .error "Entity" i.entity "$.entity" ++
    if i.cascade then
      [⟨"IR041", .warning, "Cascade delete is enabled for entity '" ++ i.entity ++
        "' - related data will be deleted", "$.cascade"⟩]
    else []

/-- The error that a name is taken. -/
def takenError (c : Context) (name : String) : List Diagnostic :=
  match c.known with
  | none => []
  | some names =>
    if names.contains name then
      [⟨"IR031", .error, "Entity '" ++ name ++ "' already exists", "$.to"⟩]
    else []

/-- The draft of a renamed entity. References always follow. -/
def renameEntity (c : Context) (i : Intent.RenameEntity) : Draft where
  model := .renameEntity
  kind := "RenameEntity"
  body := [("fromName", .str i.oldName), ("toName", .str i.newName),
    ("updateReferences", .bool true)]
  diagnostics := lookUp c .error "Entity" i.oldName "$.from" ++ takenError c i.newName ++
    reservedWarning "New entity name" i.newName "$.to" ++
    [⟨"IR050", .info, "Renaming entity '" ++ i.oldName ++ "' to '" ++ i.newName ++
      "' - references will be updated automatically", "$"⟩]

end SchemaIntents.Draft
