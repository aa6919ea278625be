import SchemaIntents.Draft
import SchemaIntents.Intent.Data
import SchemaIntents.Json.Canonical
import SchemaIntents.Resolved.Field

/-!
Drafts for intents on the fields of an entity and on relations between entities.
-/
namespace SchemaIntents.Draft

open Resolved

/-- The draft of new fields. -/
def addField (c : Context) (i : Intent.AddField) : Draft :=
  let (reported, fields) := resolveFields ⟨true, true⟩ i.entity "$.fields" i.fields
  { model := .addField
    kind := "AddField"
    body := [("entityName", .str i.entity), ("fields", .list (fields.map Resolved.Field.toValue))]
    diagnostics := lookUp c .error "Entity" i.entity "$.entity" ++ reported
    notes := [.debug "oiml_ir.transform.transformers.add_field"
      (s!"add_field: {i.fields.length} field(s) on '" ++ i.entity ++ "'")]
    misuse := fieldsMisuse? ⟨true, true⟩ i.entity i.fields }

/-- Each name once, in the order of first occurrence. -/
def firstOccurrences : List String → List String
  | [] => []
  | n :: ns => n :: (firstOccurrences ns).filter (· != n)

/-- The names that occur again, each once, in order. -/
def repeated (names : List String) : List String :=
  ((Json.sortBy Json.textAtMost
    (((firstOccurrences names).filter fun n => 1 < names.count n).map fun n => (n, ()))).map (·.1))

/-- The warning about names that are listed again. -/
def repeatedWarning (names : List String) : List Diagnostic :=
  if (firstOccurrences names).length = names.length then []
  else [⟨"IR040", .warning, "Duplicate field names in remove list: " ++
    Value.commaSeparated (repeated names), "$.fields"⟩]

/-- The draft of removed fields, each named once. -/
def removeField (c : Context) (i : Intent.RemoveField) : Draft where
  model := .removeField
  kind := "RemoveField"
  body := [("entityName", .str i.entity), ("fieldNames", .texts (firstOccurrences i.fields))]
  diagnostics := lookUp c .error "Entity" i.entity "$.entity" ++ repeatedWarning i.fields

/-- The draft of a renamed field. References always follow. -/
def renameField (c : Context) (i : Intent.RenameField) : Draft where
  model := .renameField
  kind := "RenameField"
  body := [("entityName", .str i.entity), ("fromName", .str i.oldName), ("toName", .str i.newName),
    ("updateReferences", .bool true)]
  diagnostics := lookUp c .error "Entity" i.entity "$.entity" ++
    reservedWarning "New field name" i.newName "$.to" ++
    [⟨"IR051", .info, "Renaming field '" ++ i.oldName ++ "' to '" ++ i.newName ++
      "' in entity '" ++ i.entity ++ "' - references will be updated automatically", "$"⟩]

/-- The logger of relations. -/
def relationLogger : String :=
  "oiml_ir.transform.transformers.add_relation"

/-- The draft of a relation. Both sides are looked up on their own. -/
def addRelation (c : Context) (i : Intent.AddRelation) : Draft :=
  let r := i.relation
  let type := Reference.ofRelation r i.fieldName false
  let typeErrors := match type with
    | .ok _ => []
    | .error fault =>
      [⟨"IR021", .error, "Invalid relation: " ++ fault.message, "$.relation.attributes"⟩]
  { model := .addRelation
    kind := "AddRelation"
    body := [("relation", .ofPresent [("sourceEntity", some (.str i.sourceEntity)),
      ("targetEntity", some (.str r.targetEntity)), ("fieldName", some (.str i.fieldName)),
      ("emitMigration", some (.bool r.emitMigration)),
      ("type", type.toOption.map Reference.toValue)])]
    diagnostics :=
      lookUp c .error "Source entity" i.sourceEntity "$.relation.source_entity" ++
      lookUp c .error "Target entity" r.targetEntity "$.relation.target_entity" ++ typeErrors
    notes := [.debug relationLogger ("add_relation: " ++ i.sourceEntity ++ "." ++ i.fieldName ++
      " -> " ++ r.targetEntity ++ " (" ++ r.kind ++ ")")]
    complaint := match type with
      | .ok _ => none
      | .error _ => some (.warning relationLogger
        ("add_relation: " ++ i.fieldName ++ " has no resolvable reference type"))
    misuse := relationMisuse? r }

end SchemaIntents.Draft
