/-!
The names of the models that make up the intermediate representation.
-/
namespace SchemaIntents.Ir

/-- The models of the intermediate representation, parts before wholes. -/
inductive Name where
  | scalarType
  | jsonType
  | enumType
  | arrayType
  | reverseRelation
  | referenceType
  | literalDefault
  | nowDefault
  | uuidDefault
  | autoIncrementDefault
  | generated
  | minLengthValidation
  | maxLengthValidation
  | patternValidation
  | minValidation
  | maxValidation
  | fieldApi
  | field
  | singlePrimaryKey
  | compositePrimaryKey
  | tenantScope
  | storage
  | uniqueConstraint
  | indexConstraint
  | fakerGenerator
  | enumWeightsGenerator
  | literalGenerator
  | sequentialGenerator
  | seed
  | entity
  | relation
  | endpointAuth
  | endpoint
  | relationSource
  | fieldSource
  | computedSource
  | joinSource
  | addFieldUpdate
  | endpointUpdates
  | capabilityEndpoint
  | emailTemplate
  | smtpAuth
  | smtpConfig
  | emailWebhooks
  | emailSender
  | emailOverlay
  | storageBucket
  | imageQuality
  | imageTransformations
  | cdnConfig
  | storageOverlay
  | sessionCookie
  | sessionConfig
  | oauthProvider
  | passwordPolicy
  | authOverlay
  | billingPlan
  | billingWebhooks
  | taxConfig
  | billingOverlay
  | virusScanning
  | fileUploadOverlay
  | capability
  | component
  | diagnostic
  | provenance
  | addEntity
  | addField
  | addRelation
  | removeEntity
  | removeField
  | renameEntity
  | renameField
  | addEndpoint
  | updateEndpoint
  | addCapability
  | addComponent
  deriving DecidableEq, Repr

/-- All models. -/
def Name.all : List Name := [
  .scalarType, .jsonType, .enumType, .arrayType, .reverseRelation, .referenceType,
  .literalDefault, .nowDefault, .uuidDefault, .autoIncrementDefault, .generated,
  .minLengthValidation, .maxLengthValidation, .patternValidation, .minValidation, .maxValidation,
  .fieldApi, .field, .singlePrimaryKey, .compositePrimaryKey, .tenantScope, .storage,
  .uniqueConstraint, .indexConstraint, .fakerGenerator, .enumWeightsGenerator, .literalGenerator,
  .sequentialGenerator, .seed, .entity, .relation, .endpointAuth, .endpoint, .relationSource,
  .fieldSource, .computedSource, .joinSource, .addFieldUpdate, .endpointUpdates,
  .capabilityEndpoint, .emailTemplate, .smtpAuth, .smtpConfig, .emailWebhooks, .emailSender,
  .emailOverlay, .storageBucket, .imageQuality, .imageTransformations, .cdnConfig,
  .storageOverlay, .sessionCookie, .sessionConfig, .oauthProvider, .passwordPolicy, .authOverlay,
  .billingPlan, .billingWebhooks, .taxConfig, .billingOverlay, .virusScanning, .fileUploadOverlay,
  .capability, .component, .diagnostic, .provenance, .addEntity, .addField, .addRelation,
  .removeEntity, .removeField, .renameEntity, .renameField, .addEndpoint, .updateEndpoint,
  .addCapability, .addComponent]

end SchemaIntents.Ir
