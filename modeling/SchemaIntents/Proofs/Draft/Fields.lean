import SchemaIntents.Proofs.Draft.Entity

/-! The fields of drafts in envelopes. New fields and those of endpoints stand there in the place in
which their authors wrote them, and as they are resolved; none of them becomes a key. -/
namespace SchemaIntents

open Intent (AuthoredField Kind)
open Shape

namespace Resolved

variable {l : Nat}

/-- Lists of fields that are left out when they are empty are read as they were. -/
theorem forall₂_of_someList (f : SchemaIntents.Field Ir.Name) (rs : List Field) {n : Ir.Name}
    {es : List (String × Value)} {i : Ir.Part}
    (h : (Value.obj es).checker Ir.schema l (.model n) = .ok i) (hf : f ∈ (Ir.schema n).fields)
    (hshape : f.shape = .optional (.list 0 (.model .field))) (hfallback : f.fallback = some .null)
    (hwire : Value.find? f.wire es = Value.someList (rs.map Field.toValue))
    (hname : Value.find? f.name es = none) :
    ∃ l, List.Forall₂ (fun r q => r.toValue.checker Ir.schema l (.model .field) = .ok q) rs
      (i.get f.name).items := by
  cases rs with
  | nil =>
    have hnull : i.get f.name = .plain .null :=
      Instance.field_of_absent (Ir.names_nodup _) h hf hwire hname hfallback
    rw [hnull]
    exact ⟨0, .nil⟩
  | cons r rs =>
    have hc := Instance.field_of_checker (Ir.names_nodup _) h hf hwire
    rw [hshape, checker_optional (by simp)] at hc
    exact ⟨_, forall₂_items hc⟩

/-- A field of an envelope is what an authored field is resolved to, with the type that its author
says. -/
def IsWrittenAs (owner : String) (f : AuthoredField) (q : Ir.Part) : Prop :=
  ∃ t, typeOf f owner = .ok t ∧
    ∃ l, (Field.ofAuthored f t).toValue.checker Ir.schema l (.model .field) = .ok q

/-- Where no error comes up, fields that are resolved in place and read in place are what their
authors wrote there. -/
theorem forall₂_isWrittenAs {checks : FieldChecks} {owner root : String} {fs : List AuthoredField}
    {qs : List Ir.Part} (h : (resolveFields checks owner root fs).1.any Diagnostic.isError = false)
    (hread : List.Forall₂ (fun r q => r.toValue.checker Ir.schema l (.model .field) = .ok q)
      (resolveFields checks owner root fs).2 qs) : List.Forall₂ (IsWrittenAs owner) fs qs := by
  have hresolved := forall₂_resolveFrom h
  rw [← resolveFields] at hresolved
  generalize (resolveFields checks owner root fs).2 = rs at hread hresolved
  clear h
  induction hresolved generalizing qs with
  | nil =>
    cases hread
    exact .nil
  | cons hfirst _ ih =>
    obtain ⟨t, ht, rfl⟩ := hfirst
    cases hread with
    | cons hq hrest => exact .cons ⟨t, ht, l, hq⟩ (ih hrest)

end Resolved

/-- The fields that the envelope of new fields or of an endpoint holds for those that the intent
lists under a key. -/
def Ir.Part.fieldsUnder (ir : Part) : Kind → String → List Part
  | .addField, "fields" => fields ir
  | .addEndpoint, "fields" => ((ir.get "endpoint").get "response_fields").items
  | .addEndpoint, "request_fields" => ((ir.get "endpoint").get "request_fields").items
  | _, _ => []

namespace Draft

open Resolved

/-- Where intents list fields of which none becomes a key. -/
def keylessLists : List (Kind × String) :=
  [(.addField, "fields"), (.addEndpoint, "fields"), (.addEndpoint, "request_fields")]

theorem mem_keylessLists {k : Kind} {key : String} : (k, key) ∈ keylessLists ↔
    k = .addField ∧ key = "fields" ∨ k = .addEndpoint ∧ key = "fields" ∨
      k = .addEndpoint ∧ key = "request_fields" := by
  simp [keylessLists]

variable {c : Context} {now : DateTime} {p : Intent.Part} {ir : Ir.Part}

theorem isWrittenAs_addField (h : (addField c (.ofPart p)).settle c now = .ok ir) :
    List.Forall₂ (IsWrittenAs (Intent.AddField.ofPart p).entity) (p.fields "fields")
      (ir.fieldsUnder .addField "fields") := by
  obtain ⟨herr, hpayload⟩ := settle_eq_ok h
  simp only [addField, List.any_append, Bool.or_eq_false_iff] at herr
  have hlist := Instance.field_of_checker (f := .required "fields" "fields"
    (.list 1 (.model .field)))
    (Ir.names_nodup _) hpayload (by simp [addField, Ir.schema, Ir.addField]) rfl
  exact forall₂_isWrittenAs herr.2 (forall₂_items hlist)

theorem isWrittenAs_addEndpoint (h : (addEndpoint c (.ofPart p)).settle c now = .ok ir) :
    List.Forall₂ (IsWrittenAs (responseOwner (.ofPart p))) (p.fields "fields")
        (ir.fieldsUnder .addEndpoint "fields") ∧
      List.Forall₂ (IsWrittenAs (requestOwner (.ofPart p))) (p.fields "request_fields")
        (ir.fieldsUnder .addEndpoint "request_fields") := by
  obtain ⟨herr, hpayload⟩ := settle_eq_ok h
  simp only [addEndpoint, List.any_append, Bool.or_eq_false_iff] at herr
  obtain ⟨⟨-, hresponse⟩, hrequest⟩ := herr
  have hendpoint := Instance.field_of_checker
    (f := .required "endpoint" "endpoint" (.model Ir.Name.endpoint)) (Ir.names_nodup _) hpayload
    (by simp [addEndpoint, Ir.schema, Ir.addEndpoint]) rfl
  obtain ⟨l, hfirst⟩ := forall₂_of_someList
    (.deeper (.maybe "response_fields" "responseFields" (.list 0 (.model .field))))
    (resolveFields messageChecks (responseOwner (.ofPart p)) "$.fields"
      (Intent.AddEndpoint.ofPart p).fields).2
    hendpoint (by simp [Ir.schema, Ir.endpoint]) rfl rfl
    (by simp [Field.deeper, Field.maybe, resolveFields]) (by simp [Field.deeper, Field.maybe])
  obtain ⟨l', hsecond⟩ := forall₂_of_someList
    (.deeper (.maybe "request_fields" "requestFields" (.list 0 (.model .field))))
    (resolveFields messageChecks (requestOwner (.ofPart p)) "$.request_fields"
      (Intent.AddEndpoint.ofPart p).requestFields).2
    hendpoint (by simp [Ir.schema, Ir.endpoint]) rfl rfl
    (by simp [Field.deeper, Field.maybe, resolveFields]) (by simp [Field.deeper, Field.maybe])
  exact ⟨forall₂_isWrittenAs hresponse hfirst, forall₂_isWrittenAs hrequest hsecond⟩

/-- The fields that no key is made of stand in an envelope one for one. -/
theorem exists_isWrittenAs {k : Kind} {key : String} {d : Draft} (hk : (k, key) ∈ keylessLists)
    (hd : ofPart k c p = .ok d) (h : d.settle c now = .ok ir) :
    ∃ owner, List.Forall₂ (IsWrittenAs owner) (p.fields key) (ir.fieldsUnder k key) := by
  rcases mem_keylessLists.mp hk with ⟨rfl, rfl⟩ | ⟨rfl, rfl⟩ | ⟨rfl, rfl⟩
  · obtain rfl := Except.ok.inj hd
    exact ⟨_, isWrittenAs_addField h⟩
  · obtain rfl := Except.ok.inj hd
    exact ⟨_, (isWrittenAs_addEndpoint h).1⟩
  · obtain rfl := Except.ok.inj hd
    exact ⟨_, (isWrittenAs_addEndpoint h).2⟩

end Draft
end SchemaIntents
