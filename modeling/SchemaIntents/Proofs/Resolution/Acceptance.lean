import SchemaIntents.Proofs.Ir.Faithful
import SchemaIntents.Resolution

/-! What is known of an intent that was accepted: its draft had no errors, and its envelope says
what the draft says. -/
namespace SchemaIntents

namespace Resolution

open Intent (Kind Submission)

theorem of_eq_ok {c : Context} {now : DateTime} {s : Submission} {ir : Ir.Part}
    (h : (Resolution.of c now s).result = .ok ir) :
    ∃ k, kind? s = some k ∧ (ofKind k c now s).result = .ok ir := by
  unfold Resolution.of at h
  split at h
  · exact ⟨_, ‹_›, h⟩
  · split at h <;> simp at h

theorem ofKind_eq_ok {k : Kind} {c : Context} {now : DateTime} {s : Submission} {ir : Ir.Part}
    (h : (ofKind k c now s).result = .ok ir) :
    ∃ p d, s.read k.model = .ok p ∧ Draft.ofPart k c p = .ok d ∧ d.misuse? = none ∧
      d.settle c now = .ok ir := by
  unfold ofKind at h
  cases hp : s.read k.model with
  | error issues => simp [hp] at h
  | ok p =>
    cases hd : Draft.ofPart k c p with
    | error m => simp [hp, hd] at h
    | ok d =>
      cases hm : d.misuse? with
      | some m => simp [hp, hd, hm] at h
      | none =>
        simp only [hp, hd, hm, Run.map, Draft.finish] at h
        cases hs : d.settle c now with
        | ok i => exact ⟨p, d, rfl, hd, hm, by simpa [hs] using h⟩
        | error r => simp [hs] at h

/-- What is drafted without misuse comes to what its draft is settled to. -/
theorem ofKind_of_ofPart {k : Kind} {c : Context} {now : DateTime} {s : Submission}
    {p : Intent.Part}
    {d : Draft} (hp : s.read k.model = .ok p) (hd : Draft.ofPart k c p = .ok d)
      (hm : d.misuse? = none) :
    (ofKind k c now s).result = (d.settle c now).mapError Refusal.rejected := by
  simp only [ofKind, hp, hd, hm, Run.map, Draft.finish]
  cases d.settle c now <;> rfl

/-- What is read and drafted with a misuse is misused. -/
theorem ofKind_of_misuse {k : Kind} {c : Context} {now : DateTime} {s : Submission}
    {p : Intent.Part}
    {d : Draft} {m : Misuse} (hp : s.read k.model = .ok p) (hd : Draft.ofPart k c p = .ok d)
    (hm : d.misuse? = some m) : (ofKind k c now s).result = .error (.misused m) := by
  simp only [ofKind, hp, hd, hm]

end Resolution

namespace Draft

variable {d : Draft} {c : Context} {now : DateTime} {ir : Ir.Part}

theorem settle_eq_ok (h : d.settle c now = .ok ir) :
    d.diagnostics.any Diagnostic.isError = false ∧
      (d.payload c now).checker Ir.schema Shape.levelLimit (.model d.model) = .ok ir := by
  unfold settle at h
  split at h
  · simp at h
  · split at h
    · obtain rfl := Except.ok.inj h
      exact ⟨Bool.eq_false_iff.mpr ‹_›, ‹_›⟩
    · simp at h

/-- An entity that is looked up without an error is known. -/
theorem mem_of_lookUp {names : List String} {label name path : String}
    (h :
      (lookUp (c.withKnown (some names)) .error label name path).any Diagnostic.isError = false) :
    name ∈ names := by
  by_contra hn
  simp [lookUp, Context.mayExist, Context.withKnown, hn, Diagnostic.isError] at h

theorem lookUp_eq_nil {label name path : String}
    (h : (lookUp c .error label name path).any Diagnostic.isError = false) :
    lookUp c .error label name path = [] := by
  unfold lookUp at h ⊢
  split <;> simp_all [Diagnostic.isError]

theorem not_mem_of_takenError {names : List String} {name : String}
    (h : (takenError (c.withKnown (some names)) name).any Diagnostic.isError = false) :
    name ∉ names := by
  intro hn
  simp [takenError, Context.withKnown, hn, Diagnostic.isError] at h

/-- The text of a field of an envelope is that of its draft. -/
theorem text_of_payload {f : Field Ir.Name} {t : String} {least : Nat} {most : Option Nat}
    {pattern : Option Pattern} {es : List (String × Value)} {n : Ir.Name} {l : Nat}
    (h : (Value.obj es).checker Ir.schema l (.model n) = .ok ir) (hf : f ∈ (Ir.schema n).fields)
    (hs : f.shape = .text least most pattern) (ht : Value.find? f.wire es = some (.str t)) :
    (ir.field Ir.schema f.name).text = t := by
  have hc := Instance.field_of_checker (Ir.names_nodup n) h hf ht
  rw [hs, Shape.checker_text] at hc
  obtain ⟨a, ha, -, hi⟩ := Shape.readWith_eq_ok.mp hc
  obtain rfl := Except.ok.inj ha
  rw [hi]
  rfl

/-- The kind of an envelope is that of its draft. -/
theorem kind_of_payload {es : List (String × Value)} {n : Ir.Name} {l : Nat} {word : String}
    (h : (Value.obj es).checker Ir.schema l (.model n) = .ok ir)
    (hf : .constant "kind" "kind" word ∈ (Ir.schema n).fields)
    (ht : Value.find? "kind" es = some (.str word)) : ir.kind = word := by
  have hc := Instance.field_of_checker (Ir.names_nodup n) h hf ht
  obtain ⟨a, -, ha, hi⟩ := Shape.checker_oneOf_eq_ok.mp hc
  rw [Ir.Part.kind, Ir.Part.get]
  simp only [Field.constant] at hi
  rw [hi]
  rfl

end Draft

/-- An envelope is sound for some known entities if all that it takes for granted is so: entities
that it changes or refers to are known, and a new name is not. -/
def SoundFor (names : List String) (ir : Ir.Part) : Prop :=
  let text (name : String) := (ir.get name).text
  match ir.kind with
  | "AddField" | "RemoveField" | "RenameField" | "RemoveEntity" => text "entity_name" ∈ names
  | "AddRelation" =>
    ((ir.get "relation").get "source_entity").text ∈ names ∧
      ((ir.get "relation").get "target_entity").text ∈ names
  | "RenameEntity" => text "from_name" ∈ names ∧ text "to_name" ∉ names
  | _ => True

/-- The model of the envelopes of a kind of intents. -/
def envelopeModel : Intent.Kind → Ir.Name
  | .addEntity => .addEntity
  | .addField => .addField
  | .addRelation => .addRelation
  | .removeEntity => .removeEntity
  | .removeField => .removeField
  | .renameEntity => .renameEntity
  | .renameField => .renameField
  | .addEndpoint => .addEndpoint
  | .updateEndpoint => .updateEndpoint
  | .addCapability => .addCapability
  | .addComponent => .addComponent

/-- The kind of the envelopes of a kind of intents. -/
def envelopeKind : Intent.Kind → String
  | .addEntity => "AddEntity"
  | .addField => "AddField"
  | .addRelation => "AddRelation"
  | .removeEntity => "RemoveEntity"
  | .removeField => "RemoveField"
  | .renameEntity => "RenameEntity"
  | .renameField => "RenameField"
  | .addEndpoint => "AddEndpoint"
  | .updateEndpoint => "UpdateEndpoint"
  | .addCapability => "AddCapability"
  | .addComponent => "AddComponent"

theorem draft_kind {k : Intent.Kind} {c : Context} {p : Intent.Part} {d : Draft}
    (h : Draft.ofPart k c p = .ok d) : d.model = envelopeModel k ∧ d.kind = envelopeKind k := by
  cases k with
  | addCapability =>
    simp only [Draft.ofPart, Draft.addCapability] at h
    split at h
    · exact absurd h throw_ne_ok
    · obtain ⟨overlay, -, h⟩ := bind_eq_ok h
      obtain rfl := Except.ok.inj h
      exact ⟨rfl, rfl⟩
  | _ =>
    obtain rfl := Except.ok.inj h
    exact ⟨rfl, rfl⟩

theorem kind_of_settle {k : Intent.Kind} {c c' : Context} {p : Intent.Part} {d : Draft}
    {now : DateTime} {ir : Ir.Part} (hd : Draft.ofPart k c p = .ok d)
    (h : d.settle c' now = .ok ir) : ir.kind = envelopeKind k := by
  obtain ⟨hm, hk⟩ := draft_kind hd
  have hp := (Draft.settle_eq_ok h).2
  rw [Draft.payload, hm, hk] at hp
  refine Draft.kind_of_payload hp ?_ rfl
  cases k <;> simp [envelopeModel, envelopeKind, Ir.schema, Ir.addEntity,
    Ir.addField, Ir.addRelation,
    Ir.removeEntity, Ir.removeField, Ir.renameEntity, Ir.renameField, Ir.addEndpoint,
    Ir.updateEndpoint, Ir.addCapability, Ir.addComponent]

/-- The entity that an envelope names first is known where it was looked up first without an
error. -/
theorem entityName_mem {names : List String} {label name path : String} {rest : List Diagnostic}
    {c : Context} {es : List (String × Value)} {n : Ir.Name} {l : Nat} {ir : Ir.Part}
    (hp : (Value.obj es).checker Ir.schema l (.model n) = .ok ir)
    (hf : .required "entity_name" "entityName" .someText ∈ (Ir.schema n).fields)
    (ht : Value.find? "entityName" es = some (.str name))
    (h : (Draft.lookUp (c.withKnown (some names)) .error label name path ++ rest).any
      Diagnostic.isError = false) : (ir.get "entity_name").text ∈ names := by
  rw [List.any_append, Bool.or_eq_false_iff] at h
  have hname : (ir.get "entity_name").text = name :=
    Draft.text_of_payload (f := .required "entity_name" "entityName" .someText) hp hf rfl ht
  exact hname ▸ Draft.mem_of_lookUp h.1

/-- What is accepted with some known entities is sound for them. -/
theorem soundFor_of_ofKind {k : Intent.Kind} {c : Context} {names : List String} {now : DateTime}
    {s : Intent.Submission} {ir : Ir.Part}
    (h : (Resolution.ofKind k (c.withKnown (some names)) now s).result = .ok ir) :
    SoundFor names ir := by
  obtain ⟨p, d, -, hd, -, hs⟩ := Resolution.ofKind_eq_ok h
  have hkind := kind_of_settle hd hs
  obtain ⟨herr, hp⟩ := Draft.settle_eq_ok hs
  cases k with
  | addField =>
    obtain rfl := Except.ok.inj hd
    simp only [SoundFor, hkind, envelopeKind]
    exact entityName_mem hp (by simp [Draft.addField, Ir.schema, Ir.addField]) rfl herr
  | removeField =>
    obtain rfl := Except.ok.inj hd
    simp only [SoundFor, hkind, envelopeKind]
    exact entityName_mem hp (by simp [Draft.removeField, Ir.schema, Ir.removeField]) rfl herr
  | renameField =>
    obtain rfl := Except.ok.inj hd
    simp only [SoundFor, hkind, envelopeKind]
    simp only [Draft.renameField, List.append_assoc] at herr
    exact entityName_mem hp (by simp [Draft.renameField, Ir.schema, Ir.renameField]) rfl herr
  | removeEntity =>
    obtain rfl := Except.ok.inj hd
    simp only [SoundFor, hkind, envelopeKind]
    exact entityName_mem hp (by simp [Draft.removeEntity, Ir.schema, Ir.removeEntity]) rfl herr
  | renameEntity =>
    obtain rfl := Except.ok.inj hd
    have hfrom := Draft.text_of_payload (f := .required "from_name" "fromName" .someText) hp
      (by simp [Draft.renameEntity, Ir.schema, Ir.renameEntity]) rfl rfl
    have hto := Draft.text_of_payload (f := .required "to_name" "toName" .someText) hp
      (by simp [Draft.renameEntity, Ir.schema, Ir.renameEntity]) rfl rfl
    simp only [Draft.renameEntity, List.any_append, Bool.or_eq_false_iff] at herr
    obtain ⟨⟨⟨hlook, htaken⟩, -⟩, -⟩ := herr
    simp only [SoundFor, hkind, envelopeKind]
    exact ⟨hfrom ▸ Draft.mem_of_lookUp hlook, hto ▸ Draft.not_mem_of_takenError htaken⟩
  | addRelation =>
    obtain rfl := Except.ok.inj hd
    have hr := Instance.field_of_checker (f := .required "relation" "relation" (.model .relation))
      (Ir.names_nodup _) hp (by simp [Draft.addRelation, Ir.schema, Ir.addRelation]) rfl
    have hsource := Draft.text_of_payload (f := .required "source_entity" "sourceEntity" .someText)
      hr (by simp [Ir.schema, Ir.relation]) rfl rfl
    have htarget := Draft.text_of_payload (f := .required "target_entity" "targetEntity" .someText)
      hr (by simp [Ir.schema, Ir.relation]) rfl rfl
    simp only [Draft.addRelation, List.any_append, Bool.or_eq_false_iff] at herr
    obtain ⟨⟨hlook, hlook'⟩, -⟩ := herr
    simp only [SoundFor, hkind, envelopeKind]
    exact ⟨hsource ▸ Draft.mem_of_lookUp hlook, htarget ▸ Draft.mem_of_lookUp hlook'⟩
  | _ => simp [SoundFor, hkind, envelopeKind]

end SchemaIntents
