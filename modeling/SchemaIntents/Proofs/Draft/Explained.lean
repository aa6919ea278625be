import SchemaIntents.Proofs.Resolution.Acceptance
import SchemaIntents.Proofs.Resolved.Entity
import SchemaIntents.Proofs.Shape.Issues

/-! Envelopes that do not fit the schema are told why. The only scalars of the schema are the
defaults of fields, and no draft has another default than one that fits. -/
namespace SchemaIntents

open Shape

namespace Ir

/-- Whether a model leads to no default of a field. -/
def isDefaultless : Name → Bool
  | .literalDefault | .field | .entity | .endpoint | .addEntity | .addField | .addEndpoint => false
  | _ => true

theorem explains_of_isDefaultless (n : Name) (h : isDefaultless n = true) :
    ∀ f ∈ (schema n).fields, f.shape.explains isDefaultless = true := by
  cases n <;> first | exact absurd h (by decide) | decide

theorem explained {s : Shape Name} (hs : s.explains isDefaultless = true) (v : Value) (l : Nat) :
    Explained (v.checker schema l s) :=
  explained_checker explains_of_isDefaultless hs v l

/-- The fields of a model that lead to defaults. -/
def defaultFields (n : Name) : List (Field Name) :=
  (schema n).fields.filter fun f => !f.shape.explains isDefaultless

/-- A mapping is explained if its fields that lead to defaults are. -/
theorem explained_obj {n : Name} {es : List (String × Value)} {l : Nat}
    (h : ∀ f ∈ defaultFields n, ∀ v, (f.wire, v) ∈ es ∨ (f.name, v) ∈ es →
      ∀ l, Explained (v.checker schema l f.shape)) :
    Explained ((Value.obj es).checker schema l (.model n)) := by
  rw [checker_obj_model]
  refine explained_checkModel fun f hf e he hkey l => ?_
  cases hs : f.shape.explains isDefaultless with
  | true => exact explained hs e.2 l
  | false =>
    obtain ⟨d, hd, rfl⟩ := List.mem_map.mp he
    refine h f (List.mem_filter.mpr ⟨hf, by simp [hs]⟩) d.2 ?_ l
    simp only [Value.str.injEq] at hkey
    rcases hkey with hk | hk
    · exact .inl (hk ▸ hd)
    · exact .inr (hk ▸ hd)

end Ir

theorem Shape.explained_optional {ν : Type} {schema : Schema ν} {s : Shape ν} {v : Value} {l : Nat}
    (h : Explained (v.checker schema l s)) : Explained (v.checker schema l (.optional s)) := by
  by_cases hv : v = .null
  · subst hv
    exact explained_ok _
  · rwa [checker_optional hv]

namespace Resolved

theorem default_of_mem_resolveFields {checks : FieldChecks} {owner root : String}
    {fs : List Intent.AuthoredField} {r : Field} (hr : r ∈ (resolveFields checks owner root fs).2)
    {d : Default} (hd : r.default = some d) : d.Sound := by
  obtain ⟨f, -, t, -, rfl⟩ := exists_of_mem_resolveFrom hr
  exact sound_of_defaultOf hd

theorem default_of_markPrimary {authored : List Intent.AuthoredField} {r : Field} {d : Default}
    (hd : (markPrimary authored r).default = some d) : r.default = some d := by
  unfold markPrimary at hd
  split at hd
  · split at hd
    · rename_i f _ _ _
      rcases asPrimary_cases f r with h | ⟨-, h⟩ | h <;> simp_all
    · exact hd
  · exact hd

/-- A field is explained if its default is one that fits. -/
theorem explained_field {r : Field} (h : ∀ d, r.default = some d → d.Sound) (l : Nat) :
    Explained (r.toValue.checker Ir.schema l (.model .field)) := by
  have hdefault : Ir.defaultFields .field = [.maybe "default" "default" Ir.defaultValue] := rfl
  refine Ir.explained_obj fun f hf v hv l => ?_
  obtain rfl := List.mem_singleton.mp (hdefault ▸ hf)
  obtain ⟨d, hd, rfl⟩ : ∃ d, r.default = some d ∧ d.toValue = v := by
    rcases hv with hv | hv <;> simpa [eq_comm] using mem_of_mem_presentEntries hv
  exact explained_optional (fits_default (h d hd)).explained

theorem explained_fields {rs : List Field} (h : ∀ r ∈ rs, ∀ d, r.default = some d → d.Sound)
    (least l : Nat) : Explained
      ((Value.list (rs.map Field.toValue)).checker Ir.schema l (.list least (.model .field))) := by
  rw [checker_list_list]
  refine explained_checkList fun v hv => ?_
  obtain ⟨r, hr, rfl⟩ := List.mem_map.mp hv
  exact explained_field (h r hr) l

/-- The fields of a request or a response, which are left out if there are none. -/
theorem explained_message {rs : List Field} {v : Value}
    (h : ∀ r ∈ rs, ∀ d, r.default = some d → d.Sound)
    (hv : Value.someList (rs.map Field.toValue) = some v) (l : Nat) :
    Explained (v.checker Ir.schema l (.optional (.list 0 (.model .field)))) := by
  obtain rfl : .list (rs.map Field.toValue) = v := by
    cases rs <;> simp_all [Value.someList]
  exact explained_optional (explained_fields h 0 l)

end Resolved

namespace Draft

open Resolved

variable {k : Intent.Kind} {c : Context} {now : DateTime} {p : Intent.Part} {d : Draft}

theorem explained_addField (i : Intent.AddField) (l : Nat) :
    Explained (((addField c i).payload c now).checker Ir.schema l (.model .addField)) := by
  have hfields : Ir.defaultFields .addField =
    [.required "fields" "fields" (.list 1 (.model .field))] := rfl
  refine Ir.explained_obj fun f hf v hv l => ?_
  obtain rfl := List.mem_singleton.mp (hfields ▸ hf)
  obtain rfl : v =
      .list ((resolveFields ⟨true, true⟩ i.entity "$.fields" i.fields).2.map Field.toValue) := by
    simpa [addField] using hv
  exact explained_fields (fun r hr d hd => default_of_mem_resolveFields hr hd) 1 l

theorem explained_addEndpoint (i : Intent.AddEndpoint) (l : Nat) :
    Explained (((addEndpoint c i).payload c now).checker Ir.schema l (.model .addEndpoint)) := by
  have hendpoint : Ir.defaultFields .addEndpoint =
    [.required "endpoint" "endpoint" (.model .endpoint)] := rfl
  have hmessages : Ir.defaultFields .endpoint =
    [.deeper (.maybe "response_fields" "responseFields" (.list 0 (.model .field))),
      .deeper (.maybe "request_fields" "requestFields" (.list 0 (.model .field)))] := rfl
  refine Ir.explained_obj fun f hf v hv l => ?_
  obtain rfl := List.mem_singleton.mp (hendpoint ▸ hf)
  simp only [Field.required, or_self, addEndpoint] at hv
  simp at hv
  subst hv
  refine Ir.explained_obj fun f hf v hv l => ?_
  rw [hmessages, List.mem_pair] at hf
  rcases hf with rfl | rfl
  · have hsound : ∀ r ∈ (resolveFields messageChecks (responseOwner i) "$.fields" i.fields).2,
        ∀ d, r.default = some d → d.Sound := fun r hr d hd => default_of_mem_resolveFields hr hd
    refine explained_message hsound ?_ l
    rcases hv with hv | hv <;> simpa [eq_comm] using mem_of_mem_presentEntries hv
  · have hsound : ∀ r ∈ (resolveFields messageChecks (requestOwner i) "$.request_fields"
        i.requestFields).2, ∀ d, r.default = some d → d.Sound :=
      fun r hr d hd => default_of_mem_resolveFields hr hd
    refine explained_message hsound ?_ l
    rcases hv with hv | hv <;> simpa [eq_comm] using mem_of_mem_presentEntries hv

theorem explained_addEntity (i : Intent.AddEntity) (l : Nat) :
    Explained (((addEntity c i).payload c now).checker Ir.schema l (.model .addEntity)) := by
  have hentity : Ir.defaultFields .addEntity = [.required "entity" "entity" (.model .entity)] := rfl
  have hfields : Ir.defaultFields .entity = [.required "fields" "fields"
    (.list 1 (.model .field))] := rfl
  refine Ir.explained_obj fun f hf v hv l => ?_
  obtain rfl := List.mem_singleton.mp (hentity ▸ hf)
  obtain rfl : v = (resolveEntity c i).2 := by simpa [addEntity] using hv
  refine Ir.explained_obj fun f hf v hv l => ?_
  obtain rfl := List.mem_singleton.mp (hfields ▸ hf)
  obtain rfl : v = .list ((markedFields i).map Field.toValue) := by
    rcases hv with hv | hv <;> simpa [markedFields,
      resolveFields] using mem_of_mem_presentEntries hv
  refine explained_fields (fun r hr d hd => ?_) 1 l
  obtain ⟨q, hq, rfl⟩ := List.mem_map.mp hr
  exact default_of_mem_resolveFields hq (default_of_markPrimary hd)

/-- If the envelope of a draft does not fit the schema, it is told why. -/
theorem explained_payload (hd : ofPart k c p = .ok d) (now : DateTime) :
    Explained ((d.payload c now).check Ir.schema (.model d.model)) := by
  have hmodel := (draft_kind hd).1
  cases k with
  | addEntity =>
    obtain rfl := Except.ok.inj hd
    exact explained_addEntity _ _
  | addField =>
    obtain rfl := Except.ok.inj hd
    exact explained_addField _ _
  | addEndpoint =>
    obtain rfl := Except.ok.inj hd
    exact explained_addEndpoint _ _
  | _ =>
    rw [hmodel]
    exact Ir.explained rfl _ _

end Draft
end SchemaIntents
