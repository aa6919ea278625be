import SchemaIntents.Intent.Name
import SchemaIntents.Shape

/-!
The schema of intents: loose types and names, but no keys that have no meaning. A document keeps its
intents as they are, so that one malformed intent does not spoil the others.
-/
namespace SchemaIntents.Intent

/-- How many rows of one side belong to how many of the other. -/
def relationKind : Shape Name :=
  .oneOf ["one_to_one", "one_to_many", "many_to_one", "many_to_many"]

/-- The method of an endpoint. -/
def httpMethod : Shape Name :=
  .oneOf ["GET", "POST", "PUT", "PATCH", "DELETE"]

/-- The capabilities that an intent may ask for. -/
def capabilityKind : Shape Name :=
  .oneOf ["auth", "email", "storage", "billing", "file_upload", "file_stream", "sse", "websocket"]

def fieldAttribute : Model Name where
  title := "FieldAttribute"
  fields := [
    .required "name" "name" .anyText,
    .defaulted "args" "args" .mapping (.obj [])]

def foreignKey : Model Name where
  title := "ForeignKey"
  fields := [
    .required "local_field" "local_field" .someText,
    .required "target_field" "target_field" .someText,
    .maybe "constraint_name" "constraint_name" .anyText]

def reverseRelation : Model Name where
  title := "ReverseRelationSpec"
  fields := [
    .defaulted "enabled" "enabled" .flag (.bool true),
    .required "field_name" "field_name" .someText,
    .maybe "kind" "kind" relationKind,
    .defaulted "attributes" "attributes" (.list 0 (.model .fieldAttribute)) (.list [])]

def fieldRelation : Model Name where
  title := "FieldRelation"
  fields := [
    .required "target_entity" "target_entity" .someText,
    .required "kind" "kind" relationKind,
    .maybe "foreign_key" "foreign_key" (.model .foreignKey),
    .defaulted "attributes" "attributes" (.list 0 (.model .fieldAttribute)) (.list []),
    .maybe "reverse" "reverse" (.model .reverseRelation),
    .defaulted "emit_migration" "emit_migration" .flag (.bool true)]
  rule := some .relationShape

def fieldApi : Model Name where
  title := "FieldApiSpec"
  fields := [
    .required "include" "include" .flag,
    .maybe "endpoints" "endpoints" (.list 0 .anyText)]

def field : Model Name where
  title := "FieldSpec"
  fields := [
    .required "name" "name" .someText,
    .required "type" "type" .anyText,
    .maybe "required" "required" .flag,
    .maybe "unique" "unique" .flag,
    .defaulted "default" "default" .any .null,
    .maybe "max_length" "max_length" (.whole { above := some 0 }),
    .maybe "min_length" "min_length" (.whole { least := some 0 }),
    .maybe "pattern" "pattern" .anyText,
    .maybe "min" "min" .real,
    .maybe "max" "max" .real,
    .maybe "array_type" "array_type" .anyText,
    .maybe "enum_values" "enum_values" (.list 0 .anyText),
    .maybe "enum_name" "enum_name" .anyText,
    .defaulted "attributes" "attributes" (.list 0 (.model .fieldAttribute)) (.list []),
    .maybe "api" "api" (.model .fieldApi),
    .maybe "relation" "relation" (.model .fieldRelation),
    .maybe "description" "description" .anyText,
    .maybe "tags" "tags" (.list 0 .anyText)]

def index : Model Name where
  title := "IndexSpec"
  fields := [
    .maybe "name" "name" .anyText,
    .required "fields" "fields" (.list 1 .anyText),
    .defaulted "unique" "unique" .flag (.bool false),
    .maybe "type" "type" .anyText]

def seed : Model Name where
  title := "SeedSpec"
  fields := [
    .defaulted "mode" "mode" (.oneOf ["Random", "Fixtures"]) (.str "Random"),
    .defaulted "environments" "environments" (.list 0 .anyText) (.texts ["dev"]),
    .maybe "count" "count" (.whole {}),
    .maybe "generators" "generators" (.table .mapping),
    .maybe "fixtures_path" "fixtures_path" .anyText]

def addEntity : Model Name where
  title := "AddEntityIntent"
  fields := [
    .constant "kind" "kind" "add_entity",
    .constant "scope" "scope" "data",
    .required "entity" "entity" .someText,
    .required "fields" "fields" (.list 1 (.model .field)),
    .maybe "unique" "unique" (.list 0 (.list 0 .anyText)),
    .maybe "indexes" "indexes" (.list 0 (.model .index)),
    .maybe "namespace" "namespace" .anyText,
    .maybe "module" "module" .anyText,
    .maybe "label_singular" "label_singular" .anyText,
    .maybe "label_plural" "label_plural" .anyText,
    .maybe "description" "description" .anyText,
    .maybe "tags" "tags" (.list 0 .anyText),
    .maybe "table_name" "table_name" .anyText,
    .maybe "table_schema" "table_schema" .anyText,
    .maybe "tenant_column" "tenant_column" .anyText,
    .maybe "seed" "seed" (.model .seed)]

def addField : Model Name where
  title := "AddFieldIntent"
  fields := [
    .constant "kind" "kind" "add_field",
    .constant "scope" "scope" "data",
    .required "entity" "entity" .someText,
    .required "fields" "fields" (.list 1 (.model .field))]

def removeField : Model Name where
  title := "RemoveFieldIntent"
  fields := [
    .constant "kind" "kind" "remove_field",
    .constant "scope" "scope" "data",
    .required "entity" "entity" .someText,
    .required "fields" "fields" (.list 1 .anyText)]

def removeEntity : Model Name where
  title := "RemoveEntityIntent"
  fields := [
    .constant "kind" "kind" "remove_entity",
    .constant "scope" "scope" "data",
    .required "entity" "entity" .someText,
    .defaulted "cascade" "cascade" .flag (.bool false)]

def renameEntity : Model Name where
  title := "RenameEntityIntent"
  fields := [
    .constant "kind" "kind" "rename_entity",
    .constant "scope" "scope" "data",
    .required "from_" "from" .someText,
    .required "to" "to" .someText,
    .maybe "update_references" "update_references" .flag]

def renameField : Model Name where
  title := "RenameFieldIntent"
  fields := [
    .constant "kind" "kind" "rename_field",
    .constant "scope" "scope" "data",
    .required "entity" "entity" .someText,
    .required "from_" "from" .someText,
    .required "to" "to" .someText,
    .maybe "update_references" "update_references" .flag]

def relation : Model Name where
  title := "RelationSpec"
  fields := [
    .required "source_entity" "source_entity" .someText,
    .required "target_entity" "target_entity" .someText,
    .required "kind" "kind" relationKind,
    .required "field_name" "field_name" .someText,
    .maybe "foreign_key" "foreign_key" (.model .foreignKey),
    .defaulted "attributes" "attributes" (.list 0 (.model .fieldAttribute)) (.list []),
    .maybe "reverse" "reverse" (.model .reverseRelation),
    .defaulted "emit_migration" "emit_migration" .flag (.bool true)]
  rule := some .relationShape

def addRelation : Model Name where
  title := "AddRelationIntent"
  fields := [
    .constant "kind" "kind" "add_relation",
    .constant "scope" "scope" "schema",
    .required "relation" "relation" (.model .relation)]

def endpointAuth : Model Name where
  title := "EndpointAuthSpec"
  fields := [
    .defaulted "required" "required" .flag (.bool false),
    .maybe "roles" "roles" (.list 0 .anyText)]

def addEndpoint : Model Name where
  title := "AddEndpointIntent"
  fields := [
    .constant "kind" "kind" "add_endpoint",
    .constant "scope" "scope" "api",
    .required "method" "method" httpMethod,
    .required "path" "path" (.formed .rooted),
    .maybe "description" "description" .anyText,
    .maybe "entity" "entity" .anyText,
    .maybe "fields" "fields" (.list 0 (.model .field)),
    .maybe "request_fields" "request_fields" (.list 0 (.model .field)),
    .maybe "auth" "auth" (.model .endpointAuth)]

def join : Model Name where
  title := "JoinSpec"
  fields := [
    .required "foreign_key" "foreign_key" .someText,
    .required "target_entity" "target_entity" .someText,
    .required "target_field" "target_field" .someText]

def fieldSource : Model Name where
  title := "FieldSourceSpec"
  fields := [
    .required "type" "type" (.oneOf ["relation", "field", "computed", "join"]),
    .maybe "relation" "relation" .anyText,
    .maybe "entity" "entity" .anyText,
    .maybe "field" "field" .anyText,
    .maybe "expression" "expression" .anyText,
    .maybe "join" "join" (.model .join)]
  rule := some .sourceParts

def fieldUpdate : Model Name where
  title := "FieldUpdateSpec"
  fields := [
    .required "name" "name" .someText,
    .required "source" "source" (.model .fieldSource)]

def endpointUpdates : Model Name where
  title := "EndpointUpdatesSpec"
  fields := [
    .maybe "add_field" "add_field" (.list 0 (.model .fieldUpdate)),
    .maybe "remove_field" "remove_field" (.list 0 .anyText)]

def updateEndpoint : Model Name where
  title := "UpdateEndpointIntent"
  fields := [
    .constant "kind" "kind" "update_endpoint",
    .constant "scope" "scope" "api",
    .required "method" "method" httpMethod,
    .required "path" "path" (.formed .rooted),
    .required "updates" "updates" (.model .endpointUpdates)]

def capabilityEndpoint : Model Name where
  title := "CapabilityEndpointSpec"
  fields := [
    .maybe "method" "method" httpMethod,
    .maybe "path" "path" (.formed .rooted),
    .maybe "group" "group" .anyText,
    .maybe "description" "description" .anyText]

def addCapability : Model Name where
  title := "AddCapabilityIntent"
  fields := [
    .constant "kind" "kind" "add_capability",
    .constant "scope" "scope" "capability",
    .required "capability" "capability" capabilityKind,
    .required "framework" "framework" .someText,
    .maybe "provider" "provider" .anyText,
    .maybe "entity" "entity" .anyText,
    .maybe "config" "config" .mapping,
    .maybe "endpoints" "endpoints" (.list 0 (.model .capabilityEndpoint)),
    .maybe "buckets" "buckets" (.list 0 .mapping),
    .maybe "plans" "plans" (.list 0 .mapping)]

def addComponent : Model Name where
  title := "AddComponentIntent"
  fields := [
    .constant "kind" "kind" "add_component",
    .constant "scope" "scope" "ui",
    .required "component" "component" .someText,
    .defaulted "template" "template" (.oneOf ["List", "Form", "Custom"]) (.str "Custom"),
    .maybe "entity" "entity" .anyText,
    .maybe "display_fields" "display_fields" (.list 0 .anyText),
    .maybe "route" "route" .anyText]

def authorship : Model Name where
  title := "DocumentProvenance"
  fields := [
    .maybe "created_by" "created_by" .mapping,
    .maybe "created_at" "created_at" .anyText,
    .maybe "source" "source" .anyText,
    .maybe "model" "model" .anyText]

def document : Model Name where
  title := "IntentDocument"
  fields := [
    .defaulted "version" "version" (.formed .version) (.str "0.1.0"),
    .maybe "type" "type" .anyText,
    .maybe "schema_url" "$schema" .anyText,
    .maybe "ai_context" "ai_context" .mapping,
    .maybe "provenance" "provenance" (.model .authorship),
    .required "intents" "intents" (.list 1 .mapping)]

/-- The models that the names stand for. -/
def schema : Schema Name
  | .fieldAttribute => fieldAttribute
  | .foreignKey => foreignKey
  | .reverseRelation => reverseRelation
  | .fieldRelation => fieldRelation
  | .fieldApi => fieldApi
  | .field => field
  | .index => index
  | .seed => seed
  | .addEntity => addEntity
  | .addField => addField
  | .removeField => removeField
  | .removeEntity => removeEntity
  | .renameEntity => renameEntity
  | .renameField => renameField
  | .relation => relation
  | .addRelation => addRelation
  | .endpointAuth => endpointAuth
  | .addEndpoint => addEndpoint
  | .join => join
  | .fieldSource => fieldSource
  | .fieldUpdate => fieldUpdate
  | .endpointUpdates => endpointUpdates
  | .updateEndpoint => updateEndpoint
  | .capabilityEndpoint => capabilityEndpoint
  | .addCapability => addCapability
  | .addComponent => addComponent
  | .authorship => authorship
  | .document => document

end SchemaIntents.Intent
