import SchemaIntents.Intent.Part
import SchemaIntents.Ir.Envelope
import SchemaIntents.Resolved.FieldType
import SchemaIntents.Value.Misuse

/-!
References from relations: the kind of a relation gives the cardinality on both sides, and the word
for what happens on deletion stands for one of three actions.
-/
namespace SchemaIntents.Resolved

/-- The cardinality that a relation kind gives to its own side. -/
def cardinalityOf? (kind : String) : Option Cardinality :=
  if kind = "one_to_one" ∨ kind = "many_to_one" then some .one
  else if kind = "one_to_many" ∨ kind = "many_to_many" then some .many
  else none

/-- The actions on deletion by their words. -/
def deleteActions : List (String × String) :=
  [("restrict", "Restrict"), ("cascade", "Cascade"), ("set_null", "SetNull"),
    ("setnull", "SetNull")]

/-- The action that a word stands for, in any case. -/
def deleteAction (word : String) : Except TypeFault String :=
  match deleteActions.lookup (Text.normalize word) with
  | some action => .ok action
  | none => .error (.deleteAction word)

/-- The other side of a relation; its kind is the inverse one unless another is given. -/
def reverseSide (kind : String) (r : Intent.Reverse) : Except TypeFault ReverseSide :=
  let back := (r.kind.filter (· != "")).getD (Shape.inverseKind kind)
  match cardinalityOf? back with
  | some c => .ok ⟨r.enabled, r.fieldName, c⟩
  | none => .error (.reverseKind back)

/-- What an attribute says happens on deletion, if there is such an attribute. -/
def onDeleteValue? (r : Intent.Relation) : Option Value :=
  (Intent.Attribute.find? r.attributes ["on_delete"]).map fun a =>
    (Value.find? "action" a.args).getD (.str "restrict")

/-- Why a relation block cannot even be looked at: the word for what happens on deletion is made
from any value, and some have no text. -/
def relationMisuse? (r : Intent.Relation) : Option Misuse :=
  (onDeleteValue? r).bind Value.displayFault?

/-- The reference that a relation block stands for. It leads to the field `id` unless a foreign key
says otherwise, and it may be empty if an attribute says so. -/
def Reference.ofRelation (r : Intent.Relation) (name : String) (nullable : Bool) :
    Except TypeFault Reference := do
  let some cardinality := cardinalityOf? r.kind | throw (.relationKind r.kind)
  let onDelete ← match onDeleteValue? r with
    | none => pure none
    | some v => some <$> deleteAction v.plain
  let reverse ← match r.reverse with
    | none => pure none
    | some side => some <$> reverseSide r.kind side
  return {
    targetEntity := r.targetEntity
    targetField := some (r.targetField.getD "id")
    cardinality
    nullable := nullable || Intent.Attribute.has r.attributes ["nullable", "optional"]
    relationName := some name
    onDelete
    reverse }

/-- A reference asked for with loose arguments. -/
structure ReferenceRequest where
  targetEntity : Value
  relationKind : Value
  nullable : Value := .bool false
  targetField : Value := .null
  relationName : Value := .null
  onDelete : Value := .null
  reverseFieldName : Value := .null
  reverseKind : Value := .null
  reverseEnabled : Value := .bool true

/-- Why a loose request gives no reference. -/
inductive RequestFault where
  | type (f : TypeFault)
  | issues (is : List Issue)
  | misuse (m : Misuse)

namespace ReferenceRequest

/-- A word that is looked up in a table; lists and mappings cannot be. -/
def lookUp (v : Value) : Except RequestFault (Option String) :=
  match v with
  | .str s => .ok (some s)
  | .list _ => .error (.misuse (.unhashable v.kindName))
  | .obj _ => .error (.misuse (.unhashable v.kindName))
  | .map _ => .error (.misuse (.unhashable v.kindName))
  | .set _ => .error (.misuse (.unhashable v.kindName))
  | _ => .ok none

/-- The cardinality of a kind in a loose request. -/
def cardinality (v : Value) (fault : String → TypeFault) : Except RequestFault Cardinality := do
  match (← lookUp v).bind cardinalityOf? with
  | some c => return c
  | none => throw (.type (fault v.plain))

/-- The action on deletion in a loose request. -/
def action (v : Value) : Except RequestFault Value :=
  match v with
  | .null => .ok .null
  | .str s => match deleteAction s with
    | .ok a => .ok (.str a)
    | .error f => .error (.type f)
  | v => .error (.misuse (.notText v.qualifiedKindName))

/-- A part of a reference, checked against its model. -/
def checkPart (name : Ir.Name) (v : Value) : Except RequestFault Ir.Part :=
  match v.check Ir.schema (.model name) with
  | .ok i => .ok i
  | .error is => .error (.issues is)

/-- The other side in a loose request, if a field is named for it. -/
def reverse (r : ReferenceRequest) : Except RequestFault Value := do
  if !r.reverseFieldName.truthy then return .null
  let back ←
    if r.reverseKind.truthy then cardinality r.reverseKind .reverseKind
    else
      cardinality (.str (Shape.inverseKind r.relationKind.plain)) .reverseKind
  let side ← checkPart .reverseRelation (.obj [("enabled", r.reverseEnabled),
    ("field_name", r.reverseFieldName), ("cardinality", .str back.name)])
  return side.wire Ir.schema

/-- The reference of a loose request. -/
def resolve (r : ReferenceRequest) : Except RequestFault Ir.Part := do
  let cardinality ← cardinality r.relationKind .relationKind
  let action ← action r.onDelete
  let reverse ← r.reverse
  checkPart .referenceType (.obj [("target_entity", r.targetEntity),
    ("target_field", r.targetField),
    ("cardinality", .str cardinality.name), ("nullable", r.nullable),
    ("relation_name", r.relationName), ("on_delete", action), ("reverse", reverse)])

end ReferenceRequest
end SchemaIntents.Resolved
