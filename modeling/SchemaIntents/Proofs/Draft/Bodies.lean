import SchemaIntents.Proofs.Draft.Envelope
import SchemaIntents.Proofs.Resolved.Soundness

/-! The bodies of drafts without errors. All that intents were checked for and all that was resolved
fits the schema. But texts that are taken over as they are may be empty where the schema asks for
some, or have halves of pairs, and so may the texts of an enumeration. -/
namespace SchemaIntents

open Shape

namespace Resolved

/-- Where no error comes up, all types that are resolved are those of the authored fields. -/
theorem forall_isWhole_iff {checks : FieldChecks} {owner root : String}
    {fs : List Intent.AuthoredField}
    (h : (resolveFields checks owner root fs).1.any Diagnostic.isError = false) :
    (∀ r ∈ (resolveFields checks owner root fs).2, r.type.IsWhole) ↔ ¬ HasTornType owner fs := by
  have hresolved := forall₂_resolveFrom h
  rw [← resolveFields] at hresolved
  simp only [HasTornType, not_exists, not_and, not_not]
  constructor
  · intro hwhole f hf t ht
    obtain ⟨r, hr, t', ht', rfl⟩ := exists_left_of_forall₂ hresolved.flip hf
    obtain rfl := Except.ok.inj (ht.symm.trans ht')
    exact hwhole _ hr
  · intro hwhole r hr
    obtain ⟨f, hf, t, ht, rfl⟩ := exists_left_of_forall₂ hresolved hr
    exact hwhole f hf t ht

end Resolved

namespace Draft

open Intent (Accepted Kind)
open Resolved (HasTornType)

/-- The texts that a source takes over, each at its place below the kind of the source. -/
def sourceTexts (s : Intent.FieldSource) : List (Location × String) :=
  textsBelow (.key s.type) <|
    if s.type = "relation" then [([.key "relation"], s.relation.getD "")]
    else if s.type = "field" then
      [([.key "entity"], s.entity.getD ""), ([.key "field"], s.field.getD "")]
    else if s.type = "computed" then [([.key "expression"], s.expression.getD "")]
    else []

/-- The texts that changes of an endpoint take over. -/
def updateTexts (i : Intent.UpdateEndpoint) : List (Location × String) :=
  textsBelow (.key "addFields") (i.addFields.zipIdx.flatMap fun e =>
      textsBelow (.index e.2) (textsBelow (.key "source") (sourceTexts e.1.source))) ++
    textsBelow (.key "removeFields") (listed i.removeFields)

/-- The key of the body under which texts are taken over as they are. -/
def copiedKey : Kind → String
  | .removeField => "fieldNames"
  | .updateEndpoint => "updates"
  | .addComponent => "component"
  | _ => ""

/-- The texts that are taken over as they are under that key, once each for fields that are
removed. -/
def copiedUnder (k : Kind) (p : Intent.Part) : List (Location × String) :=
  match k with
  | .removeField => listed (firstOccurrences (Intent.RemoveField.ofPart p).fields)
  | .updateEndpoint => updateTexts (.ofPart p)
  | .addComponent => textsBelow (.key "displayFields")
      (listed (Intent.AddComponent.ofPart p).displayFields)
  | _ => []

/-- The texts that the envelope of an intent takes over as they are, each at its place. -/
def copied (k : Kind) (p : Intent.Part) : List (Location × String) :=
  textsBelow (.key (copiedKey k)) (copiedUnder k p)

/-- The issues below a key of an envelope. -/
def gaps (k : Kind) (p : Intent.Part) (key : String) : List Issue :=
  if key = copiedKey k then textIssues (copiedUnder k p) else []

/-- What is found in the body of a draft, below each of its keys. -/
def BodyFinds (k : Kind) (d : Draft) (found : String → List Issue) : Prop :=
  ∀ f ∈ ownFields k, FindsAt Ir.schema (levelLimit - f.level) f.shape false
    (Value.find? f.wire d.body) (found f.wire)

section Parts

variable {l : Nat}

theorem finds_relationSource {s : Intent.FieldSource} (h : s.Sound) (ht : s.type = "relation") :
    Finds ((sourceValue s).checker Ir.schema l Ir.responseSource) (textIssues (sourceTexts s)) := by
  obtain ⟨t, hrelation, -⟩ := h.relation_given ht
  let found (key : String) := if key = "relation" then someTextIssues t else []
  have hfound : textIssues [([.key "relation"], s.relation.getD "")] =
      (Ir.schema .relationSource).fields.flatMap
        fun f => (found f.wire).map (·.under (.key f.wire)) := by
    simp [textIssues_cons_key, hrelation, found, Ir.schema, Ir.relationSource]
  rw [sourceTexts, ht, if_pos rfl, textIssues_textsBelow, hfound, sourceValue, if_pos ht]
  generalize s.field.filter (· != "") = field
  refine finds_tagged rfl rfl (finds_present (Nat.zero_le _) rfl rfl ?_)
  simp [Ir.schema, Ir.relationSource, textOrNull, hrelation, found]
  exact finds_someText t

theorem finds_fieldSource {s : Intent.FieldSource} (h : s.Sound) (ht : s.type = "field") :
    Finds ((sourceValue s).checker Ir.schema l Ir.responseSource) (textIssues (sourceTexts s)) := by
  obtain ⟨⟨t, hentity, -⟩, u, hfield, -⟩ := h.field_given ht
  let found (key : String) :=
    if key = "entity" then someTextIssues t else if key = "field" then someTextIssues u else []
  have hfound : textIssues [([.key "entity"], s.entity.getD ""),
      ([.key "field"], s.field.getD "")] = (Ir.schema .fieldSource).fields.flatMap
        fun f => (found f.wire).map (·.under (.key f.wire)) := by
    simp [textIssues_cons_key, hentity, hfield, found, Ir.schema, Ir.fieldSource]
  rw [sourceTexts, ht, if_neg (by decide), if_pos rfl, textIssues_textsBelow, hfound, sourceValue,
    if_neg (by simp [ht]), if_pos ht]
  refine finds_tagged rfl rfl (finds_obj (Nat.zero_le _) rfl rfl ?_)
  simp [Ir.schema, Ir.fieldSource, found]
  simp [Value.find?, textOrNull, hentity, hfield, finds_someText]

theorem finds_computedSource {s : Intent.FieldSource} (h : s.Sound) (ht : s.type = "computed") :
    Finds ((sourceValue s).checker Ir.schema l Ir.responseSource) (textIssues (sourceTexts s)) := by
  obtain ⟨t, hexpression, -⟩ := h.expression_given ht
  let found (key : String) := if key = "expression" then someTextIssues t else []
  have hfound : textIssues [([.key "expression"], s.expression.getD "")] =
      (Ir.schema .computedSource).fields.flatMap
        fun f => (found f.wire).map (·.under (.key f.wire)) := by
    simp [textIssues_cons_key, hexpression, found, Ir.schema, Ir.computedSource]
  rw [sourceTexts, ht, if_neg (by decide), if_neg (by decide), if_pos rfl, textIssues_textsBelow,
    hfound, sourceValue, if_neg (by simp [ht]), if_neg (by simp [ht]), if_pos ht]
  refine finds_tagged rfl rfl (finds_obj (Nat.zero_le _) rfl rfl ?_)
  simp [Ir.schema, Ir.computedSource, found]
  simp [Value.find?, hexpression, finds_someText]

theorem fits_joinSource {s : Intent.FieldSource} (h : s.Sound) (ht : s.type = "join") :
    Finds ((sourceValue s).checker Ir.schema l Ir.responseSource) [] := by
  obtain ⟨j, hjoin, hj⟩ := h.join_sound ht
  rw [sourceValue, if_neg (by simp [ht]), if_neg (by simp [ht]), if_neg (by simp [ht])]
  refine fits_tagged rfl rfl (fits_present (Nat.zero_le _) rfl rfl ?_)
  simp [Ir.schema, Ir.joinSource, hjoin, hj.foreignKey_proper, hj.targetEntity_proper,
    hj.targetField_proper]

/-- A source fits but for the texts that it takes over. -/
theorem finds_source {s : Intent.FieldSource} (h : s.Sound) :
    Finds ((sourceValue s).checker Ir.schema l Ir.responseSource) (textIssues (sourceTexts s)) := by
  have htype := h.type_mem
  simp only [List.mem_cons, List.not_mem_nil, or_false] at htype
  rcases htype with ht | ht | ht | ht
  · exact finds_relationSource h ht
  · exact finds_fieldSource h ht
  · exact finds_computedSource h ht
  · have hnone : sourceTexts s = [] := by simp [sourceTexts, ht, textsBelow]
    exact hnone ▸ fits_joinSource h ht

theorem finds_update {u : Intent.FieldUpdate} (hname : Text.IsProper u.name)
    (hsource : u.source.Sound) :
    Finds ((updateValue u).checker Ir.schema l (.model .addFieldUpdate))
      (textIssues (textsBelow (.key "source") (sourceTexts u.source))) := by
  let found (key : String) := if key = "source" then textIssues (sourceTexts u.source) else []
  have hfound : textIssues (textsBelow (.key "source") (sourceTexts u.source)) =
      (Ir.schema .addFieldUpdate).fields.flatMap
        fun f => (found f.wire).map (·.under (.key f.wire)) := by
    simp [found, Ir.schema, Ir.addFieldUpdate]
  rw [hfound]
  refine finds_obj (Nat.zero_le _) rfl rfl ?_
  simp [Ir.schema, Ir.addFieldUpdate, found]
  simpa [Value.find?, hname] using finds_source hsource

theorem fits_auth (a : Intent.EndpointAuth) :
    Finds ((authValue a).checker Ir.schema l (.model .endpointAuth)) [] := by
  refine fits_present (Nat.zero_le _) rfl rfl ?_
  simp [Ir.schema, Ir.endpointAuth]
  exact fun ts _ => fits_optional (fits_texts (Nat.zero_le _))

/-- Sound fields fit if their types do. -/
theorem decides_fields {fields : List Resolved.Field} {least : Nat} (hlen : least ≤ fields.length)
    (h : ∀ r ∈ fields, r.Sound) (hl : 2 ≤ l) :
    Decides ((Value.list (fields.map Resolved.Field.toValue)).checker Ir.schema l
      (.list least (.model .field))) (∀ r ∈ fields, r.type.IsWhole) :=
  (decides_map fun r hr => Resolved.decides_field (h r hr) hl).congr (and_iff_right hlen)

theorem fits_relation {i : Intent.AddRelation} {reference : Resolved.Reference}
    (hsource : Text.IsProper i.sourceEntity) (hfield : Text.IsProper i.fieldName)
    (hr : i.relation.Sound) (href : reference.Sound) :
    Finds ((Value.ofPresent [("sourceEntity", some (.str i.sourceEntity)),
      ("targetEntity", some (.str i.relation.targetEntity)), ("fieldName", some (.str i.fieldName)),
      ("emitMigration", some (.bool i.relation.emitMigration)),
      ("type", some reference.toValue)]).checker Ir.schema l (.model .relation)) [] := by
  have htype := Resolved.fits_reference (l := l) href
  refine fits_present (Nat.zero_le _) rfl rfl ?_
  simp [Ir.schema, Ir.relation, hsource, hr.targetEntity_proper, hfield, htype]

/-- An endpoint fits if the types of its fields do. -/
theorem decides_endpoint {i : Intent.AddEndpoint} {response request : List Resolved.Field}
    (hmethod : i.method ∈ ["GET", "POST", "PUT", "PATCH", "DELETE"])
    (hpath : textFault? 0 none (some .rooted) i.path = none) (hresponse : ∀ r ∈ response, r.Sound)
    (hrequest : ∀ r ∈ request, r.Sound) (hl : 3 ≤ l) :
    Decides ((Value.ofPresent [("method", some (.str i.method)), ("path", some (.str i.path)),
      ("description", i.description.map .str), ("entity", i.entity.map .str),
      ("responseFields", Value.someList (response.map Resolved.Field.toValue)),
      ("requestFields", Value.someList (request.map Resolved.Field.toValue)),
      ("auth", i.auth.map authValue)]).checker Ir.schema l (.model .endpoint))
      ((∀ r ∈ response, r.type.IsWhole) ∧ ∀ r ∈ request, r.type.IsWhole) := by
  have listed {rs : List Resolved.Field} (h : ∀ r ∈ rs, r.Sound) :
      DecidesAt Ir.schema (l - 1) (.optional (.list 0 (.model .field))) true
        (Value.someList (rs.map Resolved.Field.toValue)) (∀ r ∈ rs, r.type.IsWhole) := by
    cases rs with
    | nil => simp
    | cons r rs =>
      refine decidesAt_some.mpr ?_
      rw [checker_optional (by simp)]
      exact decides_fields (Nat.zero_le _) h (by omega)
  refine (decides_present (p := fun key => (key = "responseFields" →
    ∀ r ∈ response, r.type.IsWhole) ∧
    (key = "requestFields" → ∀ r ∈ request, r.type.IsWhole)) (Nat.zero_le _) rfl rfl ?_).congr ?_
  · simp [Ir.schema, Ir.endpoint, Ir.httpMethod, hpath]
    exact ⟨by simpa using hmethod, listed hresponse, listed hrequest,
      fun a _ => fits_optional (fits_auth a)⟩
  · simp [Ir.schema, Ir.endpoint]

/-- A list of texts that is there only if it has some finds the issues of them. -/
theorem findsAt_someTexts {ts : List String} :
    FindsAt Ir.schema l (.optional (.list 0 .someText)) true (Value.someList (ts.map .str))
      (textIssues (listed ts)) := by
  cases ts with
  | nil => exact ⟨rfl, rfl⟩
  | cons t ts => exact (finds_optional (by simp)).mpr (finds_someTexts (Nat.zero_le _))

/-- Changes of an endpoint fit but for the texts that they take over. -/
theorem finds_updates {i : Intent.UpdateEndpoint}
    (h : ∀ u ∈ i.addFields, Text.IsProper u.name ∧ u.source.Sound) :
    Finds ((Value.ofPresent [("addFields", Value.someList (i.addFields.map updateValue)),
      ("removeFields", Value.someList (i.removeFields.map .str))]).checker Ir.schema l
        (.model .endpointUpdates)) (textIssues (updateTexts i)) := by
  let added := textIssues (i.addFields.zipIdx.flatMap fun e =>
    textsBelow (.index e.2) (textsBelow (.key "source") (sourceTexts e.1.source)))
  let found (key : String) :=
    if key = "addFields" then added
    else if key = "removeFields" then textIssues (listed i.removeFields) else []
  have hfound : textIssues (updateTexts i) = (Ir.schema .endpointUpdates).fields.flatMap
      fun f => (found f.wire).map (·.under (.key f.wire)) := by
    simp [updateTexts, found, added, Ir.schema, Ir.endpointUpdates]
  have hadded : FindsAt Ir.schema l (.optional (.list 0 (.model .addFieldUpdate))) true
      (Value.someList (i.addFields.map updateValue)) added := by
    have hlist : Finds ((Value.list (i.addFields.map updateValue)).checker Ir.schema l
        (.list 0 (.model .addFieldUpdate))) added := by
      simp only [added, textIssues_flatMap, textIssues_textsBelow (.index _)]
      exact finds_map (Nat.zero_le _) fun u hu => finds_update (h u hu).1 (h u hu).2
    cases hnone : i.addFields with
    | nil => exact ⟨rfl, by simp [added, hnone]⟩
    | cons u us => exact (finds_optional (by simp)).mpr (hnone ▸ hlist)
  rw [hfound]
  refine finds_present (Nat.zero_le _) rfl rfl ?_
  simp [Ir.schema, Ir.endpointUpdates, found]
  exact ⟨hadded, findsAt_someTexts⟩

/-- A component fits but for the names of fields that it shows. -/
theorem finds_component {i : Intent.AddComponent} (hname : Text.IsProper i.component)
    (htemplate : i.template ∈ ["List", "Form", "Custom"]) :
    Finds ((Value.ofPresent [("name", some (.str i.component)),
      ("template", some (.str i.template)),
      ("entity", i.entity.map .str), ("displayFields", Value.someList (i.displayFields.map .str)),
      ("route", i.route.map .str)]).checker Ir.schema l (.model .component))
      (textIssues (textsBelow (.key "displayFields") (listed i.displayFields))) := by
  let found (key : String) :=
    if key = "displayFields" then textIssues (listed i.displayFields) else []
  have hfound : textIssues (textsBelow (.key "displayFields") (listed i.displayFields)) =
      (Ir.schema .component).fields.flatMap fun f =>
        (found f.wire).map (·.under (.key f.wire)) := by
    simp [found, Ir.schema, Ir.component]
  rw [hfound]
  refine finds_present (Nat.zero_le _) rfl rfl ?_
  simp [Ir.schema, Ir.component, hname, found]
  exact ⟨by simpa using htemplate, findsAt_someTexts⟩

end Parts

section Bodies

variable {c : Context} {p : Intent.Part}

theorem bodyFinds_removeEntity (h : Accepted .removeEntity p) :
    BodyFinds .removeEntity (removeEntity c (.ofPart p)) fun _ => [] := by
  have hentity : Text.IsProper (Intent.RemoveEntity.ofPart p).entity :=
    h.isProper_text (k := "entity") (by simp [Intent.schema, Intent.removeEntity])
  simp [BodyFinds, ownFields, envelopeModel, Ir.schema, Ir.removeEntity, removeEntity]
  simp [Value.find?, hentity]

theorem bodyFinds_renameEntity (h : Accepted .renameEntity p) :
    BodyFinds .renameEntity (renameEntity c (.ofPart p)) fun _ => [] := by
  have hold : Text.IsProper (Intent.RenameEntity.ofPart p).oldName :=
    h.isProper_text (k := "from") (by simp [Intent.schema, Intent.renameEntity])
  have hnew : Text.IsProper (Intent.RenameEntity.ofPart p).newName :=
    h.isProper_text (k := "to") (by simp [Intent.schema, Intent.renameEntity])
  simp [BodyFinds, ownFields, envelopeModel, Ir.schema, Ir.renameEntity, renameEntity]
  simp [Value.find?, hold, hnew]

theorem bodyFinds_renameField (h : Accepted .renameField p) :
    BodyFinds .renameField (renameField c (.ofPart p)) fun _ => [] := by
  have hentity : Text.IsProper (Intent.RenameField.ofPart p).entity :=
    h.isProper_text (k := "entity") (by simp [Intent.schema, Intent.renameField])
  have hold : Text.IsProper (Intent.RenameField.ofPart p).oldName :=
    h.isProper_text (k := "from") (by simp [Intent.schema, Intent.renameField])
  have hnew : Text.IsProper (Intent.RenameField.ofPart p).newName :=
    h.isProper_text (k := "to") (by simp [Intent.schema, Intent.renameField])
  simp [BodyFinds, ownFields, envelopeModel, Ir.schema, Ir.renameField, renameField]
  simp [Value.find?, hentity, hold, hnew]

theorem bodyFinds_removeField (h : Accepted .removeField p) :
    BodyFinds .removeField (removeField c (.ofPart p)) (gaps .removeField p) := by
  have hentity : Text.IsProper (Intent.RemoveField.ofPart p).entity :=
    h.isProper_text (k := "entity") (by simp [Intent.schema, Intent.removeField])
  have hlen : 1 ≤ (firstOccurrences (Intent.RemoveField.ofPart p).fields).length := by
    have hfields : 1 ≤ (Intent.RemoveField.ofPart p).fields.length :=
      h.le_length_texts (k := "fields") (s := .anyText)
        (by simp [Intent.schema, Intent.removeField])
    cases hf : (Intent.RemoveField.ofPart p).fields with
    | nil => simp [hf] at hfields
    | cons => simp [firstOccurrences]
  have hnames : Finds ((Value.texts (firstOccurrences (Intent.RemoveField.ofPart p).fields)).checker
      Ir.schema levelLimit (.list 1 .someText)) (gaps .removeField p "fieldNames") :=
    finds_someTexts hlen
  simp [BodyFinds, ownFields, envelopeModel, Ir.schema, Ir.removeField, removeField]
  simp [Value.find?, hentity, gaps, copiedKey]
  exact hnames

/-- New fields fit if their types do. -/
theorem bodyFinds_addField (h : Accepted .addField p)
    (herr : (addField c (.ofPart p)).diagnostics.any Diagnostic.isError = false) :
    ∃ issues, BodyFinds .addField (addField c (.ofPart p))
        (fun key => if key = "fields" then issues else []) ∧
      (issues = [] ↔ ¬ HasTornType (Intent.AddField.ofPart p).entity (p.fields "fields")) := by
  have hentity : Text.IsProper (Intent.AddField.ofPart p).entity :=
    h.isProper_text (k := "entity") (by simp [Intent.schema, Intent.addField])
  have hmem : .required "fields" "fields" (.list 1 (.model .field)) ∈
    (Intent.schema .addField).fields := by
    simp [Intent.schema, Intent.addField]
  obtain ⟨hsome, hsound⟩ := h.fields hmem
  simp only [addField, List.any_append, Bool.or_eq_false_iff] at herr
  have hlen : 1 ≤ (Resolved.resolveFields ⟨true, true⟩ (Intent.AddField.ofPart p).entity
      "$.fields" (Intent.AddField.ofPart p).fields).2.length := by
    rw [Resolved.resolveFields, Resolved.length_resolveFrom herr.2]
    exact hsome
  obtain ⟨issues, hfound, hwhole⟩ := decides_fields (l := levelLimit) hlen
    (fun r hr => Resolved.sound_of_mem_resolveFrom hsound hr) (by decide)
  refine ⟨issues, ?_, hwhole.trans (Resolved.forall_isWhole_iff herr.2)⟩
  simp [BodyFinds, ownFields, envelopeModel, Ir.schema, Ir.addField, addField]
  simp [Value.find?, hentity, hfound]

theorem bodyFinds_addRelation (h : Accepted .addRelation p)
    (herr : (addRelation c (.ofPart p)).diagnostics.any Diagnostic.isError = false) :
    BodyFinds .addRelation (addRelation c (.ofPart p)) fun _ => [] := by
  have hmem : .required "relation" "relation" (.model .relation) ∈
    (Intent.schema .addRelation).fields := by
    simp [Intent.schema, Intent.addRelation]
  have hr : Accepted .relation (p.get "relation") := h.required hmem
  have hsource : Text.IsProper (Intent.AddRelation.ofPart p).sourceEntity :=
    hr.isProper_text (k := "source_entity") (by simp [Intent.schema, Intent.relation])
  have hfield : Text.IsProper (Intent.AddRelation.ofPart p).fieldName :=
    hr.isProper_text (k := "field_name") (by simp [Intent.schema, Intent.relation])
  have hsound : (Intent.AddRelation.ofPart p).relation.Sound :=
    hr.relation (by simp [Intent.schema, Intent.relation])
      (by simp [Intent.schema, Intent.relation])
  obtain ⟨reference, hreference⟩ : ∃ reference, Resolved.Reference.ofRelation
      (Intent.AddRelation.ofPart p).relation (Intent.AddRelation.ofPart p).fieldName false =
        .ok reference := by
    cases ht : Resolved.Reference.ofRelation (Intent.AddRelation.ofPart p).relation
      (Intent.AddRelation.ofPart p).fieldName false with
    | ok reference => exact ⟨reference, rfl⟩
    | error fault => simp [addRelation, ht, Diagnostic.isError] at herr
  have hrelation := fits_relation (l := levelLimit) hsource hfield hsound
    (Resolved.sound_of_ofRelation hsound hreference)
  simp [BodyFinds, ownFields, envelopeModel, Ir.schema, Ir.addRelation, addRelation, Value.find?,
    hreference, Except.toOption, hrelation]

/-- A new endpoint fits if the types of its fields do. -/
theorem bodyFinds_addEndpoint (h : Accepted .addEndpoint p)
    (herr : (addEndpoint c (.ofPart p)).diagnostics.any Diagnostic.isError = false) :
    ∃ issues, BodyFinds .addEndpoint (addEndpoint c (.ofPart p))
        (fun key => if key = "endpoint" then issues else []) ∧
      (issues = [] ↔ ¬ HasTornType (responseOwner (.ofPart p)) (p.fields "fields") ∧
        ¬ HasTornType (requestOwner (.ofPart p)) (p.fields "request_fields")) := by
  have hmethod : (Intent.AddEndpoint.ofPart p).method ∈ ["GET", "POST", "PUT", "PATCH", "DELETE"] :=
    h.word (k := "method") (by simp [Intent.schema, Intent.addEndpoint, Intent.httpMethod])
  have hpath : textFault? 0 none (some .rooted) (Intent.AddEndpoint.ofPart p).path = none :=
    h.text (k := "path") (by simp [Intent.schema, Intent.addEndpoint])
  have listed : ∀ {name : String}, .maybe name name (.list 0 (.model .field)) ∈
      (Intent.schema .addEndpoint).fields → ∀ f ∈ Intent.Part.fields p name, f.Sound :=
    fun hf => h.fields_of_maybe hf
  have hresponse : ∀ f ∈ (Intent.AddEndpoint.ofPart p).fields, f.Sound :=
    listed (by simp [Intent.schema, Intent.addEndpoint])
  have hrequest : ∀ f ∈ (Intent.AddEndpoint.ofPart p).requestFields, f.Sound :=
    listed (by simp [Intent.schema, Intent.addEndpoint])
  simp only [addEndpoint, List.any_append, Bool.or_eq_false_iff] at herr
  obtain ⟨⟨-, hresponseErr⟩, hrequestErr⟩ := herr
  obtain ⟨issues, hfound, hwhole⟩ := decides_endpoint (l := levelLimit) hmethod hpath
    (fun r hr => Resolved.sound_of_mem_resolveFrom hresponse hr)
    (fun r hr => Resolved.sound_of_mem_resolveFrom hrequest hr) (by decide)
  refine ⟨issues, ?_, hwhole.trans (and_congr (Resolved.forall_isWhole_iff hresponseErr)
    (Resolved.forall_isWhole_iff hrequestErr))⟩
  simp [BodyFinds, ownFields, envelopeModel, Ir.schema, Ir.addEndpoint, addEndpoint, Value.find?]
  exact hfound

theorem bodyFinds_updateEndpoint (h : Accepted .updateEndpoint p) :
    BodyFinds .updateEndpoint (updateEndpoint (.ofPart p)) (gaps .updateEndpoint p) := by
  have hmethod : (Intent.UpdateEndpoint.ofPart p).method ∈
    ["GET", "POST", "PUT", "PATCH", "DELETE"] :=
    h.word (k := "method") (by simp [Intent.schema, Intent.updateEndpoint, Intent.httpMethod])
  have hpath : textFault? 0 none (some .rooted) (Intent.UpdateEndpoint.ofPart p).path = none :=
    h.text (k := "path") (by simp [Intent.schema, Intent.updateEndpoint])
  have hmem : .required "updates" "updates" (.model .endpointUpdates) ∈
      (Intent.schema .updateEndpoint).fields := by
    simp [Intent.schema, Intent.updateEndpoint]
  have hu : Accepted .endpointUpdates (p.get "updates") := h.required hmem
  have hadd : .maybe "add_field" "add_field" (.list 0 (.model .fieldUpdate)) ∈
      (Intent.schema .endpointUpdates).fields := by
    simp [Intent.schema, Intent.endpointUpdates]
  have hupdates : ∀ u ∈ (Intent.UpdateEndpoint.ofPart p).addFields,
      Text.IsProper u.name ∧ u.source.Sound := by
    simp only [Intent.UpdateEndpoint.ofPart, List.forall_mem_map]
    exact fun q hq => Accepted.update (hu.items_of_maybe hadd q hq)
  have hfound := finds_updates (l := levelLimit) hupdates
  simp [BodyFinds, ownFields, envelopeModel, Ir.schema, Ir.updateEndpoint,
    updateEndpoint, Ir.httpMethod]
  simp [Value.find?, hpath, gaps, copiedKey]
  exact ⟨by simpa using hmethod, hfound⟩

theorem bodyFinds_addComponent (h : Accepted .addComponent p) :
    BodyFinds .addComponent (addComponent c (.ofPart p)) (gaps .addComponent p) := by
  have hname : Text.IsProper (Intent.AddComponent.ofPart p).component :=
    h.isProper_text (k := "component") (by simp [Intent.schema, Intent.addComponent])
  have htemplate : (Intent.AddComponent.ofPart p).template ∈ ["List", "Form", "Custom"] :=
    h.word_of_defaulted (k := "template") (t := "Custom")
      (by simp [Intent.schema, Intent.addComponent]) (by decide)
  simp [BodyFinds, ownFields, envelopeModel, Ir.schema, Ir.addComponent, addComponent]
  simp [Value.find?, gaps, copiedKey]
  exact finds_component hname htemplate

end Bodies

end Draft

end SchemaIntents
