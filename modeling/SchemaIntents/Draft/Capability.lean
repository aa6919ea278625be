import SchemaIntents.Draft.Endpoint
import SchemaIntents.Resolved.Overlay

/-!
Drafts for intents on capabilities and components.
-/
namespace SchemaIntents.Draft

open Resolved

def capabilityEndpoint (e : Intent.CapabilityEndpoint) : Value :=
  .ofPresent [("method", e.method.map .str), ("path", e.path.map .str),
    ("group", e.group.map .str), ("description", e.description.map .str)]

/-- The last note about a capability: whether it has an overlay. -/
def overlayNote (i : Intent.AddCapability) (overlay : Option Overlay) : Diagnostic :=
  match overlay with
  | some _ => Overlay.note "CAP000"
      ("Built " ++ i.capability ++ " capability overlay with defaults") "$.capability"
  | none => Overlay.note "CAP100"
      ("No overlay builder for capability type '" ++ i.capability ++ "'") "$.capability"

/-- The draft of a new capability. -/
def addCapability (c : Context) (i : Intent.AddCapability) :
    Except Misuse Draft := do
  if let some m := Diagnostic.firstMisuse? (mention c i.entity) then throw m
  let overlay ← Overlay.ofCapability? i
  return {
    model := .addCapability
    kind := "AddCapability"
    body := [("capability", .ofPresent [("type", some (.str i.capability)),
      ("framework", some (.str i.framework)), ("provider", i.provider.map .str),
      ("entity", i.entity.map .str),
      ("config", if i.config.isEmpty then none else some (.obj i.config)),
      ("endpoints", Value.someList (i.endpoints.map capabilityEndpoint)),
      ("overlay", overlay.map (·.value))])]
    diagnostics := mention c i.entity ++ ((overlay.map (·.notes)).getD []) ++
      [overlayNote i overlay]
    notes := if overlay.isSome then
        [.debug "oiml_ir.transform.transformers.add_capability"
          ("add_capability: built " ++ i.capability ++ " overlay for " ++ i.framework)]
      else [] }

/-- The draft of a new component. -/
def addComponent (c : Context) (i : Intent.AddComponent) : Draft where
  model := .addComponent
  kind := "AddComponent"
  body := [("component", .ofPresent [("name", some (.str i.component)),
    ("template", some (.str i.template)), ("entity", i.entity.map .str),
    ("displayFields", Value.someList (i.displayFields.map .str)), ("route", i.route.map .str)])]
  diagnostics := mention c i.entity

end SchemaIntents.Draft
