import SchemaIntents.Draft.Capability
import SchemaIntents.Draft.Entity
import SchemaIntents.Draft.Field
import SchemaIntents.Intent.Kind

/-!
From an intent to an envelope: the intent is checked against the model of its kind, drafted and
settled.
-/
namespace SchemaIntents

open Intent (Kind Submission)

/-- Why an intent gives no envelope. -/
inductive Refusal where
  /-- The intent does not fit its model or contradicts what is known. -/
  | rejected (r : Rejection)
  /-- There is no such kind of intent. -/
  | unsupported (r : Rejection)
  /-- A value in it cannot be used as it has to be. -/
  | misused (m : Misuse)

/-- What is reported about an intent of an unknown kind. -/
def Rejection.ofKind (stated : Value) : Rejection :=
  let message := "Unsupported intent kind: " ++ stated.display
  ⟨message, [⟨"IR000", .error, message, "$.kind"⟩]⟩

/-- What is reported about an intent that does not fit its model. -/
def Rejection.ofIssues (title : String) (issues : List Issue) : Rejection :=
  let message := "Intent does not match the " ++ title ++ " schema"
  ⟨message, Draft.reportIssues "IR010" (message ++ ": ") issues⟩

namespace Draft

/-- The draft of a checked intent. -/
def ofPart (k : Kind) (c : Context) (p : Intent.Part) : Except Misuse Draft :=
  match k with
  | .addEntity => .ok (addEntity c (.ofPart p))
  | .addField => .ok (addField c (.ofPart p))
  | .addRelation => .ok (addRelation c (.ofPart p))
  | .removeEntity => .ok (removeEntity c (.ofPart p))
  | .removeField => .ok (removeField c (.ofPart p))
  | .renameEntity => .ok (renameEntity c (.ofPart p))
  | .renameField => .ok (renameField c (.ofPart p))
  | .addEndpoint => .ok (addEndpoint c (.ofPart p))
  | .updateEndpoint => .ok (updateEndpoint (.ofPart p))
  | .addCapability => addCapability c (.ofPart p)
  | .addComponent => .ok (addComponent c (.ofPart p))

end Draft

/-- What one intent comes to. -/
abbrev Resolution :=
  Except Refusal Ir.Part

namespace Resolution

/-- Resolves an intent as one of a kind. -/
def ofKind (k : Kind) (c : Context) (now : DateTime) (s : Submission) : Run Resolution :=
  let title := (Intent.schema k.model).title
  match s.read k.model with
  | .error issues =>
    ⟨[.warning Draft.logger (title ++ s!": rejected intent with {issues.length} schema issue(s)")],
      .error (.rejected (.ofIssues title issues))⟩
  | .ok p =>
    match Draft.ofPart k c p with
    | .error m => ⟨[], .error (.misused m)⟩
    | .ok d =>
      match d.misuse? with
      | some m => ⟨d.notes, .error (.misused m)⟩
      | none => (d.finish c now).map fun
        | .ok ir => .ok ir
        | .error r => .error (.rejected r)

/-- The logger that tells which intents are resolved. -/
def logger : String :=
  "oiml_ir.transform.dispatch"

/-- The kind that an intent names, if it is one. -/
def kind? (s : Submission) : Option Kind :=
  match s.statedKind with
  | .str name => Kind.ofName? name
  | _ => none

/-- Resolves an intent by the kind that it names. -/
def of (c : Context) (now : DateTime) (s : Submission) : Run Resolution :=
  match kind? s with
  | some k => (ofKind k c now s).after [.debug logger ("Dispatching " ++ k.name ++ " intent")]
  | none =>
    match s.statedKind.forDisplay with
    | .ok stated => ⟨[], .error (.unsupported (.ofKind stated))⟩
    | .error m => ⟨[], .error (.misused m)⟩

end Resolution

/-- The entities that are known after an envelope is applied. -/
def knownAfter (known : Option (List String)) (ir : Ir.Part) : Option (List String) :=
  let text (name : String) := (ir.field Ir.schema name).text
  known.map fun names =>
    match ir.kind with
    | "AddEntity" =>
      let name := ((ir.field Ir.schema "entity").field Ir.schema "name").text
      if names.contains name then names else names ++ [name]
    | "RemoveEntity" => names.filter (· != text "entity_name")
    | "RenameEntity" =>
      let rest := names.filter (· != text "from_name")
      if rest.contains (text "to_name") then rest else rest ++ [text "to_name"]
    | _ => names

end SchemaIntents
