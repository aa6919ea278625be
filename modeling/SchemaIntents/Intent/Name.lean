/-!
The names of the models that intents are made of.
-/
namespace SchemaIntents.Intent

/-- The models of intents and of the document that holds them, parts before wholes. -/
inductive Name where
  | fieldAttribute
  | foreignKey
  | reverseRelation
  | fieldRelation
  | fieldApi
  | field
  | index
  | seed
  | addEntity
  | addField
  | removeField
  | removeEntity
  | renameEntity
  | renameField
  | relation
  | addRelation
  | endpointAuth
  | addEndpoint
  | join
  | fieldSource
  | fieldUpdate
  | endpointUpdates
  | updateEndpoint
  | capabilityEndpoint
  | addCapability
  | addComponent
  | authorship
  | document
  deriving DecidableEq, Repr

/-- All models. -/
def Name.all : List Name := [
  .fieldAttribute, .foreignKey, .reverseRelation, .fieldRelation, .fieldApi, .field, .index,
  .seed, .addEntity, .addField, .removeField, .removeEntity, .renameEntity, .renameField,
  .relation, .addRelation, .endpointAuth, .addEndpoint, .join, .fieldSource, .fieldUpdate,
  .endpointUpdates, .updateEndpoint, .capabilityEndpoint, .addCapability, .addComponent,
  .authorship, .document]

end SchemaIntents.Intent
