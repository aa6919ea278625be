import SchemaIntents.Ir.Schema.Service

/-!
The schema of the intermediate representation: the envelopes with what all of them carry, and the
model of every name.
-/
namespace SchemaIntents.Ir

def diagnostic : Model Name where
  title := "Diagnostic"
  description := some "A structured, leveled message produced while resolving an intent."
  fields := [
    .required "code" "code" .someText,
    .required "severity" "severity" (.oneOf ["error", "warning", "info"]),
    .required "message" "message" .someText,
    .required "path" "path" .anyText]

def provenance : Model Name where
  title := "Provenance"
  description := some "Traceability metadata attached to every IR envelope."
  fields := [
    .required "intent_id" "intentId" .someText,
    .required "project_id" "projectId" .someText,
    .required "generated_at" "generatedAt" (.formed .utcMoment),
    .required "source_intent_version" "sourceIntentVersion" (.formed .version),
    .maybe "model" "model" .anyText]

def addEntity : Model Name where
  title := "AddEntityIR"
  description := some "IR envelope for an ``add_entity`` intent."
  fields := [
    .constant "kind" "kind" "AddEntity",
    .constant "ir_version" "irVersion" "1.0.0",
    .required "provenance" "provenance" (.model .provenance),
    .required "entity" "entity" (.model .entity),
    .required "diagnostics" "diagnostics" (.list 0 (.model .diagnostic))]

def addField : Model Name where
  title := "AddFieldIR"
  description := some "IR envelope for an ``add_field`` intent: new fields on an existing entity."
  fields := [
    .constant "kind" "kind" "AddField",
    .constant "ir_version" "irVersion" "1.0.0",
    .required "provenance" "provenance" (.model .provenance),
    .required "entity_name" "entityName" .someText,
    .required "fields" "fields" (.list 1 (.model .field)),
    .required "diagnostics" "diagnostics" (.list 0 (.model .diagnostic))]

def addRelation : Model Name where
  title := "AddRelationIR"
  description := some "IR envelope for an ``add_relation`` intent."
  fields := [
    .constant "kind" "kind" "AddRelation",
    .constant "ir_version" "irVersion" "1.0.0",
    .required "provenance" "provenance" (.model .provenance),
    .required "relation" "relation" (.model .relation),
    .required "diagnostics" "diagnostics" (.list 0 (.model .diagnostic))]

def removeEntity : Model Name where
  title := "RemoveEntityIR"
  description := some ("IR envelope for a ``remove_entity`` intent.\n\nDescribes a deletion " ++
    "for a downstream generator; nothing is deleted here.")
  fields := [
    .constant "kind" "kind" "RemoveEntity",
    .constant "ir_version" "irVersion" "1.0.0",
    .required "provenance" "provenance" (.model .provenance),
    .required "entity_name" "entityName" .someText,
    .required "cascade" "cascade" .flag,
    .required "diagnostics" "diagnostics" (.list 0 (.model .diagnostic))]

def removeField : Model Name where
  title := "RemoveFieldIR"
  description := some "IR envelope for a ``remove_field`` intent."
  fields := [
    .constant "kind" "kind" "RemoveField",
    .constant "ir_version" "irVersion" "1.0.0",
    .required "provenance" "provenance" (.model .provenance),
    .required "entity_name" "entityName" .someText,
    .required "field_names" "fieldNames" (.list 1 .someText),
    .required "diagnostics" "diagnostics" (.list 0 (.model .diagnostic))]

def renameEntity : Model Name where
  title := "RenameEntityIR"
  description := some "IR envelope for a ``rename_entity`` intent."
  fields := [
    .constant "kind" "kind" "RenameEntity",
    .constant "ir_version" "irVersion" "1.0.0",
    .required "provenance" "provenance" (.model .provenance),
    .required "from_name" "fromName" .someText,
    .required "to_name" "toName" .someText,
    .required "update_references" "updateReferences" .flag,
    .required "diagnostics" "diagnostics" (.list 0 (.model .diagnostic))]

def renameField : Model Name where
  title := "RenameFieldIR"
  description := some "IR envelope for a ``rename_field`` intent."
  fields := [
    .constant "kind" "kind" "RenameField",
    .constant "ir_version" "irVersion" "1.0.0",
    .required "provenance" "provenance" (.model .provenance),
    .required "entity_name" "entityName" .someText,
    .required "from_name" "fromName" .someText,
    .required "to_name" "toName" .someText,
    .required "update_references" "updateReferences" .flag,
    .required "diagnostics" "diagnostics" (.list 0 (.model .diagnostic))]

def addEndpoint : Model Name where
  title := "AddEndpointIR"
  description := some "IR envelope for an ``add_endpoint`` intent."
  fields := [
    .constant "kind" "kind" "AddEndpoint",
    .constant "ir_version" "irVersion" "1.0.0",
    .required "provenance" "provenance" (.model .provenance),
    .required "endpoint" "endpoint" (.model .endpoint),
    .required "diagnostics" "diagnostics" (.list 0 (.model .diagnostic))]

def updateEndpoint : Model Name where
  title := "UpdateEndpointIR"
  description := some "IR envelope for an ``update_endpoint`` intent."
  fields := [
    .constant "kind" "kind" "UpdateEndpoint",
    .constant "ir_version" "irVersion" "1.0.0",
    .required "provenance" "provenance" (.model .provenance),
    .required "method" "method" httpMethod,
    .required "path" "path" (.formed .rooted),
    .required "updates" "updates" (.model .endpointUpdates),
    .required "diagnostics" "diagnostics" (.list 0 (.model .diagnostic))]

def addCapability : Model Name where
  title := "AddCapabilityIR"
  description := some "IR envelope for an ``add_capability`` intent."
  fields := [
    .constant "kind" "kind" "AddCapability",
    .constant "ir_version" "irVersion" "1.0.0",
    .required "provenance" "provenance" (.model .provenance),
    .required "capability" "capability" (.model .capability),
    .required "diagnostics" "diagnostics" (.list 0 (.model .diagnostic))]

def addComponent : Model Name where
  title := "AddComponentIR"
  description := some "IR envelope for an ``add_component`` intent."
  fields := [
    .constant "kind" "kind" "AddComponent",
    .constant "ir_version" "irVersion" "1.0.0",
    .required "provenance" "provenance" (.model .provenance),
    .required "component" "component" (.model .component),
    .required "diagnostics" "diagnostics" (.list 0 (.model .diagnostic))]

/-- The models that the names stand for. -/
def schema : Schema Name
  | .scalarType => scalarType
  | .jsonType => jsonType
  | .enumType => enumType
  | .arrayType => arrayType
  | .reverseRelation => reverseRelation
  | .referenceType => referenceType
  | .literalDefault => literalDefault
  | .nowDefault => nowDefault
  | .uuidDefault => uuidDefault
  | .autoIncrementDefault => autoIncrementDefault
  | .generated => generated
  | .minLengthValidation => minLengthValidation
  | .maxLengthValidation => maxLengthValidation
  | .patternValidation => patternValidation
  | .minValidation => minValidation
  | .maxValidation => maxValidation
  | .fieldApi => fieldApi
  | .field => field
  | .singlePrimaryKey => singlePrimaryKey
  | .compositePrimaryKey => compositePrimaryKey
  | .tenantScope => tenantScope
  | .storage => storage
  | .uniqueConstraint => uniqueConstraint
  | .indexConstraint => indexConstraint
  | .fakerGenerator => fakerGenerator
  | .enumWeightsGenerator => enumWeightsGenerator
  | .literalGenerator => literalGenerator
  | .sequentialGenerator => sequentialGenerator
  | .seed => seed
  | .entity => entity
  | .relation => relation
  | .endpointAuth => endpointAuth
  | .endpoint => endpoint
  | .relationSource => relationSource
  | .fieldSource => fieldSource
  | .computedSource => computedSource
  | .joinSource => joinSource
  | .addFieldUpdate => addFieldUpdate
  | .endpointUpdates => endpointUpdates
  | .capabilityEndpoint => capabilityEndpoint
  | .emailTemplate => emailTemplate
  | .smtpAuth => smtpAuth
  | .smtpConfig => smtpConfig
  | .emailWebhooks => emailWebhooks
  | .emailSender => emailSender
  | .emailOverlay => emailOverlay
  | .storageBucket => storageBucket
  | .imageQuality => imageQuality
  | .imageTransformations => imageTransformations
  | .cdnConfig => cdnConfig
  | .storageOverlay => storageOverlay
  | .sessionCookie => sessionCookie
  | .sessionConfig => sessionConfig
  | .oauthProvider => oauthProvider
  | .passwordPolicy => passwordPolicy
  | .authOverlay => authOverlay
  | .billingPlan => billingPlan
  | .billingWebhooks => billingWebhooks
  | .taxConfig => taxConfig
  | .billingOverlay => billingOverlay
  | .virusScanning => virusScanning
  | .fileUploadOverlay => fileUploadOverlay
  | .capability => capability
  | .component => component
  | .diagnostic => diagnostic
  | .provenance => provenance
  | .addEntity => addEntity
  | .addField => addField
  | .addRelation => addRelation
  | .removeEntity => removeEntity
  | .removeField => removeField
  | .renameEntity => renameEntity
  | .renameField => renameField
  | .addEndpoint => addEndpoint
  | .updateEndpoint => updateEndpoint
  | .addCapability => addCapability
  | .addComponent => addComponent

/-- An envelope of any kind, chosen by its kind. -/
def envelope : Shape Name :=
  .tagged "kind" [("AddEntity", .addEntity), ("AddField", .addField), ("AddRelation",
    .addRelation), ("RemoveEntity", .removeEntity), ("RemoveField", .removeField),
    ("RenameEntity", .renameEntity), ("RenameField", .renameField), ("AddEndpoint", .addEndpoint),
    ("UpdateEndpoint", .updateEndpoint), ("AddCapability", .addCapability), ("AddComponent",
    .addComponent)]

end SchemaIntents.Ir
