import SchemaIntents.Ir.Name
import SchemaIntents.Shape

/-!
The models of entities: types, fields, storage, constraints, seeds and relations.
-/
namespace SchemaIntents.Ir

/-- The primitive column types. -/
def scalarKinds : List String :=
  ["String", "Text", "Int", "BigInt", "Float", "Decimal", "Boolean", "DateTime", "Date", "Time",
    "Uuid", "Bytes"]

/-- The type of a field: a primitive type, or one of the composed types. -/
def fieldType : Shape Name :=
  .tagged "kind" (scalarKinds.map (·, .scalarType) ++ [
    ("Json", .jsonType), ("Enum", .enumType), ("Array", .arrayType), ("Reference", .referenceType)])

/-- What a field is filled with. -/
def defaultValue : Shape Name :=
  .tagged "kind" [("Literal", .literalDefault), ("Now", .nowDefault), ("UUIDv4", .uuidDefault),
    ("AutoIncrement", .autoIncrementDefault)]

/-- A restriction on the values of a field. -/
def validation : Shape Name :=
  .tagged "kind" [("MinLength", .minLengthValidation), ("MaxLength", .maxLengthValidation),
    ("Pattern", .patternValidation), ("Min", .minValidation), ("Max", .maxValidation)]

/-- How many rows a reference leads to. -/
def cardinality : Shape Name :=
  .oneOf ["One", "Many"]

/-- The key of a table: one field or several. -/
def primaryKey : Shape Name :=
  .tagged "kind" [("Single", .singlePrimaryKey), ("Composite", .compositePrimaryKey)]

/-- A constraint of a table. -/
def constraint : Shape Name :=
  .tagged "kind" [("Unique", .uniqueConstraint), ("Index", .indexConstraint)]

/-- How the seed values of a field are made. -/
def seedGenerator : Shape Name :=
  .tagged "kind" [("Faker", .fakerGenerator), ("EnumWeights", .enumWeightsGenerator), ("Literal",
    .literalGenerator), ("Sequential", .sequentialGenerator)]

def scalarType : Model Name where
  title := "ScalarType"
  description := some "Primitive column type, serialized as ``\x7b\"kind\": \"String\"\x7d`` etc."
  fields := [
    .required "kind" "kind" (.oneOf scalarKinds)]

def jsonType : Model Name where
  title := "JsonType"
  description := some "JSON/blob field, optionally pointing at an external JSON schema."
  fields := [
    .constant "kind" "kind" "Json",
    .maybe "schema_ref" "schemaRef" .anyText]

def enumType : Model Name where
  title := "EnumType"
  description := some "Enumerated type with a stable, generated or explicit name."
  fields := [
    .constant "kind" "kind" "Enum",
    .required "name" "name" .someText,
    .required "values" "values" (.list 1 .someText),
    .defaulted "source" "source" (.oneOf ["Inline", "Shared"]) (.str "Inline")]

def arrayType : Model Name where
  title := "ArrayType"
  description := some "Homogeneous list of another field type."
  level := 1
  fields := [
    .constant "kind" "kind" "Array",
    .required "element_type" "elementType" fieldType]

def reverseRelation : Model Name where
  title := "ReverseRelation"
  description := some "The virtual field generated on the target side of a reference."
  fields := [
    .required "enabled" "enabled" .flag,
    .required "field_name" "fieldName" .someText,
    .required "cardinality" "cardinality" cardinality]

def referenceType : Model Name where
  title := "ReferenceType"
  description := some "Reference to another entity, by name."
  fields := [
    .constant "kind" "kind" "Reference",
    .required "target_entity" "targetEntity" .someText,
    .maybe "target_field" "targetField" .anyText,
    .required "cardinality" "cardinality" cardinality,
    .required "nullable" "nullable" .flag,
    .maybe "relation_name" "relationName" .anyText,
    .maybe "on_delete" "onDelete" (.oneOf ["Restrict", "Cascade", "SetNull"]),
    .maybe "reverse" "reverse" (.model .reverseRelation)]

def literalDefault : Model Name where
  title := "LiteralDefault"
  fields := [
    .constant "kind" "kind" "Literal",
    .required "value" "value" .scalar]

def nowDefault : Model Name where
  title := "NowDefault"
  fields := [
    .constant "kind" "kind" "Now"]

def uuidDefault : Model Name where
  title := "UUIDv4Default"
  fields := [
    .constant "kind" "kind" "UUIDv4"]

def autoIncrementDefault : Model Name where
  title := "AutoIncrementDefault"
  fields := [
    .constant "kind" "kind" "AutoIncrement"]

def generated : Model Name where
  title := "Generated"
  description := some "Generated value semantics (beyond defaults)."
  fields := [
    .required "strategy" "strategy" (.oneOf ["AutoIncrement", "UUID", "Timestamp", "Custom"]),
    .maybe "expr" "expr" .anyText]

def minLengthValidation : Model Name where
  title := "MinLengthValidation"
  fields := [
    .constant "kind" "kind" "MinLength",
    .required "min" "min" (.whole { least := some 0 })]

def maxLengthValidation : Model Name where
  title := "MaxLengthValidation"
  fields := [
    .constant "kind" "kind" "MaxLength",
    .required "max" "max" (.whole { above := some 0 })]

def patternValidation : Model Name where
  title := "PatternValidation"
  fields := [
    .constant "kind" "kind" "Pattern",
    .required "regex" "regex" .anyText]

def minValidation : Model Name where
  title := "MinValidation"
  fields := [
    .constant "kind" "kind" "Min",
    .required "min" "min" .real]

def maxValidation : Model Name where
  title := "MaxValidation"
  fields := [
    .constant "kind" "kind" "Max",
    .required "max" "max" .real]

def fieldApi : Model Name where
  title := "FieldAPIConfig"
  description := some "API exposure of a field."
  fields := [
    .required "include" "include" .flag,
    .maybe "endpoints" "endpoints" (.list 0 .anyText)]

def field : Model Name where
  title := "FieldIR"
  description := some "A single resolved field of an entity, endpoint or request body."
  fields := [
    .required "name" "name" .someText,
    .deeper (.required "type" "type" fieldType),
    .required "nullable" "nullable" .flag,
    .maybe "unique" "unique" .flag,
    .maybe "is_primary" "isPrimary" .flag,
    .maybe "default" "default" defaultValue,
    .maybe "generated" "generated" (.model .generated),
    .maybe "validations" "validations" (.list 0 validation),
    .maybe "api" "api" (.model .fieldApi),
    .maybe "description" "description" .anyText,
    .maybe "tags" "tags" (.list 0 .anyText)]

def singlePrimaryKey : Model Name where
  title := "SinglePrimaryKey"
  fields := [
    .constant "kind" "kind" "Single",
    .required "field" "field" .someText]

def compositePrimaryKey : Model Name where
  title := "CompositePrimaryKey"
  fields := [
    .constant "kind" "kind" "Composite",
    .required "fields" "fields" (.list 2 .someText)]

def tenantScope : Model Name where
  title := "TenantScope"
  description := some "Single-column tenant scope (e.g. ``workspaceId``)."
  fields := [
    .constant "mode" "mode" "Column",
    .required "column" "column" .someText]

def storage : Model Name where
  title := "RelationalTableStorage"
  description := some "An entity stored as a relational table."
  fields := [
    .constant "kind" "kind" "RelationalTable",
    .required "table_name" "tableName" .someText,
    .maybe "db_schema" "schema" .anyText,
    .required "primary_key" "primaryKey" primaryKey,
    .maybe "tenant_scoping" "tenantScoping" (.model .tenantScope)]

def uniqueConstraint : Model Name where
  title := "UniqueConstraint"
  fields := [
    .constant "kind" "kind" "Unique",
    .maybe "name" "name" .anyText,
    .required "fields" "fields" (.list 1 .someText)]

def indexConstraint : Model Name where
  title := "IndexConstraint"
  fields := [
    .constant "kind" "kind" "Index",
    .maybe "name" "name" .anyText,
    .required "fields" "fields" (.list 1 .someText),
    .maybe "unique" "unique" .flag,
    .maybe "type" "type" .anyText]

def fakerGenerator : Model Name where
  title := "FakerGenerator"
  fields := [
    .constant "kind" "kind" "Faker",
    .required "path" "path" .someText]

def enumWeightsGenerator : Model Name where
  title := "EnumWeightsGenerator"
  fields := [
    .constant "kind" "kind" "EnumWeights",
    .required "values" "values" (.list 0 .anyText),
    .maybe "weights" "weights" (.list 0 .real)]

def literalGenerator : Model Name where
  title := "LiteralGenerator"
  fields := [
    .constant "kind" "kind" "Literal",
    .required "value" "value" .any]

def sequentialGenerator : Model Name where
  title := "SequentialGenerator"
  fields := [
    .constant "kind" "kind" "Sequential",
    .maybe "start" "start" .real,
    .maybe "step" "step" .real]

def seed : Model Name where
  title := "SeedIR"
  description := some "Seeding configuration for an entity."
  fields := [
    .required "mode" "mode" (.oneOf ["Random", "Fixtures"]),
    .required "environments" "environments" (.list 1 (.oneOf ["dev", "preview", "test", "prod"])),
    .maybe "count" "count" (.whole { above := some 0 }),
    .maybe "generator_by_field" "generatorByField" (.table seedGenerator),
    .maybe "fixtures_path" "fixturesPath" .anyText]

def entity : Model Name where
  title := "EntityIR"
  description := some ("A domain entity: its storage, fields, constraints and " ++
    "traceability.\n\nConstraints and seed generators reference fields by name only.")
  fields := [
    .required "name" "name" .someText,
    .maybe "namespace" "namespace" .anyText,
    .maybe "module" "module" .anyText,
    .maybe "label_singular" "labelSingular" .anyText,
    .maybe "label_plural" "labelPlural" .anyText,
    .maybe "description" "description" .anyText,
    .maybe "tags" "tags" (.list 0 .anyText),
    .required "storage" "storage" (.model .storage),
    .required "fields" "fields" (.list 1 (.model .field)),
    .maybe "constraints" "constraints" (.list 0 constraint),
    .maybe "seed" "seed" (.model .seed),
    .required "created_by_intent" "createdByIntent" .someText,
    .required "updated_by_intents" "updatedByIntents" (.list 0 .anyText)]

def relation : Model Name where
  title := "RelationIR"
  description := some "A resolved relation from ``source_entity.field_name`` to ``target_entity``."
  fields := [
    .required "source_entity" "sourceEntity" .someText,
    .required "target_entity" "targetEntity" .someText,
    .required "field_name" "fieldName" .someText,
    .required "type" "type" (.model .referenceType),
    .required "emit_migration" "emitMigration" .flag]

end SchemaIntents.Ir
