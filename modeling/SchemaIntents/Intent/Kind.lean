import SchemaIntents.Intent.Part

/-!
The kinds of intents and the models they are checked against.
-/
namespace SchemaIntents.Intent

/-- The eleven kinds of intents. -/
inductive Kind where
  | addEntity
  | addField
  | addRelation
  | removeEntity
  | removeField
  | renameEntity
  | renameField
  | addEndpoint
  | updateEndpoint
  | addCapability
  | addComponent
  deriving DecidableEq, Repr

namespace Kind

def all : List Kind :=
  [addEntity, addField, addRelation, removeEntity, removeField, renameEntity, renameField,
    addEndpoint, updateEndpoint, addCapability, addComponent]

/-- The word by which an intent names its kind. -/
def name : Kind → String
  | addEntity => "add_entity"
  | addField => "add_field"
  | addRelation => "add_relation"
  | removeEntity => "remove_entity"
  | removeField => "remove_field"
  | renameEntity => "rename_entity"
  | renameField => "rename_field"
  | addEndpoint => "add_endpoint"
  | updateEndpoint => "update_endpoint"
  | addCapability => "add_capability"
  | addComponent => "add_component"

def ofName? (s : String) : Option Kind :=
  all.find? fun k => k.name == s

def model : Kind → Name
  | addEntity => .addEntity
  | addField => .addField
  | addRelation => .addRelation
  | removeEntity => .removeEntity
  | removeField => .removeField
  | renameEntity => .renameEntity
  | renameField => .renameField
  | addEndpoint => .addEndpoint
  | updateEndpoint => .updateEndpoint
  | addCapability => .addCapability
  | addComponent => .addComponent

end Kind

/-- An intent as it is handed in: plain data, or an instance that was checked before. -/
inductive Submission where
  | plain (v : Value)
  | checked (p : Part)

namespace Submission

/-- What an intent says its kind is. Checked instances say nothing. -/
def statedKind : Submission → Value
  | plain v => (v.lookup? "kind").getD .null
  | checked _ => .null

/-- Whether a part is an instance of a model. -/
def isOf (name : Name) : Part → Bool
  | .model m _ _ => m = name
  | _ => false

/-- The intent as an instance of a model. An instance of another model is written out and checked
anew. -/
def read (name : Name) : Submission → Checked Name
  | plain v => parse name v
  | checked p => if isOf name p then .ok p else parse name (p.dump schema)

end Submission
end SchemaIntents.Intent
