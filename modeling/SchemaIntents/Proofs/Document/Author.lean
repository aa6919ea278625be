import SchemaIntents.Document
import SchemaIntents.Proofs.Intent.Soundness
import SchemaIntents.Proofs.Value.Json

/-! Who wrote a document, as its data says and as its checked parts say. -/
namespace SchemaIntents.Document

section Data

variable {ν : Type} {schema : Schema ν} {l : Nat} {n : ν} {v w : Value} {es : List (String × Value)}
  {i x : Instance ν} {s : Shape ν}

/-- A field that may be absent is what its entry is read as, or null without one. -/
theorem checker_get (name : String) (hn : ((schema n).fields.map (·.name)).Nodup)
    (h : (Value.obj es).checker schema l (.model n) = .ok i)
    (hf : .maybe name name s ∈ (schema n).fields) :
    ((Value.obj es).get name).checker schema (l - (schema n).level) (.optional s) =
      .ok (i.field schema name) := by
  rcases Instance.field_of_maybe name name s hn h hf id with ⟨w, hw, hc⟩ | ⟨hnone, hnull⟩
  · rwa [Value.get, Value.get?, hw]
  · rw [Value.get, Value.get?, hnone, hnull]
    rfl

theorem plain_of_checker_text (hw : w.IsJson)
    (h : w.checker schema l (.optional .anyText) = .ok x) :
    x = .plain w ∧ (w = .null ∨ ∃ t, w = .str t) := by
  cases hw with
  | null => exact ⟨(Except.ok.inj h).symm, .inl rfl⟩
  | str t => exact ⟨(Except.ok.inj h).symm, .inr ⟨t, rfl⟩⟩
  | _ => exact absurd h Checked.fail_ne_ok

theorem plain_of_checker_mapping (hw : w.IsJson)
    (h : w.checker schema l (.optional .mapping) = .ok x) :
    x = .plain w ∧ (w = .null ∨ ∃ es, w = .obj es) := by
  cases hw with
  | null => exact ⟨(Except.ok.inj h).symm, .inl rfl⟩
  | @obj entries =>
    have hc : (Value.obj entries).checker schema l .mapping = .ok x := h
    exact ⟨(Shape.eq_of_checker_mapping hc).1, .inr ⟨entries, rfl⟩⟩
  | _ => exact absurd h Checked.fail_ne_ok

end Data

/-- The name that the data of a document gives for the model that wrote it. -/
def authorName (v : Value) : Value :=
  let provenance := v.get "provenance"
  let creator := provenance.get "created_by"
  if (provenance.get "model").truthy then provenance.get "model"
  else
    match creator.get "type" with
    | .str "agent" => creator.get "name"
    | _ => .null

theorem isJson_authorName {v : Value} (hv : v.IsJson) : (authorName v).IsJson := by
  have hprovenance := hv.get "provenance"
  rw [authorName]
  split
  · exact hprovenance.get "model"
  · split
    · exact (hprovenance.get "created_by").get "name"
    · exact .null

/-- What the provenance of a document says of the model that wrote it is what its data says. -/
theorem some?_model {v : Value} {l : Nat} {p : Intent.Part} (hv : v.IsJson)
    (h : v.checker Intent.schema l (.model .authorship) = .ok p) :
    (Intent.Part.some? p "model").map Value.str =
      if (v.get "model").truthy then some (v.get "model") else none := by
  obtain ⟨es, rfl⟩ := Shape.exists_obj_of_checker hv h
  have hmodel := checker_get "model" (s := .anyText) (Intent.names_nodup .authorship) h
    (by simp [Intent.schema, Intent.authorship])
  obtain ⟨hp, hw⟩ := plain_of_checker_text (hv.get "model") hmodel
  rw [Intent.Part.some?, Intent.Part.text?, Intent.Part.get, hp]
  rcases hw with hw | ⟨t, hw⟩
  · simp [hw, Instance.text?, Value.truthy]
  · by_cases ht : t = "" <;> simp [hw, ht, Instance.text?, Value.truthy]

theorem mapping?_creator {v : Value} {l : Nat} {p : Intent.Part} (hv : v.IsJson)
    (h : v.checker Intent.schema l (.model .authorship) = .ok p) (key : String) :
    Value.find? key ((Intent.Part.mapping? p "created_by").getD []) =
      (v.get "created_by").get? key := by
  obtain ⟨es, rfl⟩ := Shape.exists_obj_of_checker hv h
  have hcreator := checker_get "created_by" (s := .mapping) (Intent.names_nodup .authorship) h
    (by simp [Intent.schema, Intent.authorship])
  obtain ⟨hp, hw⟩ := plain_of_checker_mapping (hv.get "created_by") hcreator
  rw [Intent.Part.mapping?, Intent.Part.get, hp]
  rcases hw with hw | ⟨entries, hw⟩ <;> simp [hw, Value.entries?, Value.get?, Value.find?]

/-- A document that fits its model names the model that wrote it as its data does. -/
theorem authorModel_eq {v : Value} {whole : Intent.Part} (hv : v.IsJson)
    (h : Intent.parse .document v = .ok whole) : authorModel whole = authorName v := by
  obtain ⟨es, rfl⟩ := Shape.exists_obj_of_checker hv h
  have hread : ((Value.obj es).get "provenance").checker Intent.schema _
      (.optional (.model .authorship)) = .ok (Intent.Part.get whole "provenance") :=
    checker_get "provenance" (Intent.names_nodup .document) h
      (by simp [Intent.schema, Intent.document])
  have hjson := hv.get "provenance"
  rw [authorModel, authorName, Intent.Part.part?]
  generalize (Value.obj es).get "provenance" = provenance at hread hjson ⊢
  generalize Intent.Part.get whole "provenance" = p at hread ⊢
  by_cases hnull : provenance = .null
  · subst hnull
    rw [← Except.ok.inj hread]
    rfl
  · rw [Shape.checker_optional hnull] at hread
    have hpart : Instance.some? p = some p := by
      obtain ⟨_, _, -, -, -, -, -, rfl⟩ := Shape.checker_model hread
      rfl
    have hmodel := some?_model hjson hread
    simp only [hpart, mapping?_creator hjson hread]
    by_cases hm : (provenance.get "model").truthy = true
    · rw [if_pos hm] at hmodel ⊢
      obtain ⟨text, htext, hname⟩ := Option.map_eq_some_iff.mp hmodel
      rw [htext]
      exact hname
    -- an agent as the creator counts only where the provenance names no model
    · rw [if_neg hm, Option.map_eq_none_iff] at hmodel
      rw [if_neg hm, hmodel]
      generalize provenance.get "created_by" = creator
      rw [Value.get, Value.get]
      cases creator.get? "type" with
      | none => rfl
      | some kind =>
        dsimp only [Option.getD_some]
        split <;> split <;> simp_all

end SchemaIntents.Document
