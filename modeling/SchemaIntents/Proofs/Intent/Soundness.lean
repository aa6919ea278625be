import SchemaIntents.Intent.Data
import SchemaIntents.Intent.Service
import SchemaIntents.Proofs.Intent.Faithful

/-! What the model of an intent promises of its parts: names that are not empty, bounds that can be
kept, words out of a few, and for each source the parts that it needs. -/
namespace SchemaIntents.Intent

open Shape

/-- A part was read as one of a model. -/
def Accepted (n : Name) (p : Part) : Prop :=
  ∃ v l, Value.checker schema v l (.model n) = .ok p

theorem accepted_of_parse {n : Name} {v : Value} {p : Part} (h : parse n v = .ok p) :
    Accepted n p :=
  ⟨v, levelLimit, h⟩

namespace Accepted

variable {n m : Name} {p q : Part} {name k : String} {s : Shape Name} {least : Nat}

theorem required (h : Accepted n p) (hf : .required name k s ∈ (schema n).fields) :
    ∃ w l, Value.checker schema w l s = .ok (p.get name) := by
  obtain ⟨v, l, hp⟩ := h
  obtain ⟨w, -, hw⟩ := Instance.field_of_required (names_nodup n) hp hf
  exact ⟨w, _, hw⟩

theorem maybe (h : Accepted n p) (hf : .maybe name k s ∈ (schema n).fields) :
    p.get name = .plain .null ∨ ∃ w l, Value.checker schema w l s = .ok (p.get name) := by
  obtain ⟨v, l, hp⟩ := h
  rcases Instance.field_cases (names_nodup n) hp hf with ⟨w, -, hw⟩ | ⟨d, hd, hfield⟩
  · by_cases hnull : w = .null
    · subst hnull
      exact .inl (Except.ok.inj hw).symm
    · rw [Field.maybe, checker_optional hnull] at hw
      exact .inr ⟨w, _, hw⟩
  · obtain rfl : .null = d := Option.some.inj hd
    exact .inl hfield

/-- A text that is required keeps to what is asked of it. -/
theorem text {most : Option Nat} {pattern : Option Pattern} (h : Accepted n p)
    (hf : .required name k (.text least most pattern) ∈ (schema n).fields) :
    textFault? least most pattern (p.text name) = none := by
  obtain ⟨w, l, hw⟩ := h.required hf
  rw [checker_text] at hw
  obtain ⟨t, -, ht, hfield⟩ := readWith_eq_ok.mp hw
  rwa [Part.text, hfield]

theorem isProper_text (h : Accepted n p) (hf : .required name k .someText ∈ (schema n).fields) :
    Text.IsProper (p.text name) :=
  textFault?_some.mp (h.text hf)

theorem word {words : List String} (h : Accepted n p)
    (hf : .required name k (.oneOf words) ∈ (schema n).fields) : p.text name ∈ words := by
  obtain ⟨w, l, hw⟩ := h.required hf
  obtain ⟨t, ht, rfl, hfield⟩ := checker_oneOf_eq_ok.mp hw
  rwa [Part.text, hfield]

theorem word_of_defaulted {words : List String} {t : String} (h : Accepted n p)
    (hf : .defaulted name k (.oneOf words) (.str t) ∈ (schema n).fields) (ht : t ∈ words) :
    p.text name ∈ words := by
  obtain ⟨v, l, hp⟩ := h
  rcases Instance.field_cases (names_nodup n) hp hf with ⟨w, -, hw⟩ | ⟨d, hd, hfield⟩
  · obtain ⟨u, hu, rfl, hfield⟩ := checker_oneOf_eq_ok.mp hw
    rwa [Part.text, show p.get name = _ from hfield]
  · obtain rfl := Option.some.inj hd
    rwa [Part.text, show p.get name = _ from hfield]

theorem whole {b : Bounds} (h : Accepted n p)
    (hf : .maybe name k (.whole b) ∈ (schema n).fields) {c : Int} (hc : p.whole? name = some c) :
    boundFault? b c = none := by
  rcases h.maybe hf with hnull | ⟨w, l, hw⟩
  · simp [Part.whole?, hnull] at hc
  · rw [checker_whole] at hw
    obtain ⟨a, -, ha, hfield⟩ := readWith_eq_ok.mp hw
    obtain rfl : a = c := by simpa [Part.whole?, hfield] using hc
    exact ha

theorem text_of_maybe {least : Nat} {most : Option Nat} {pattern : Option Pattern}
    (h : Accepted n p) (hf : .maybe name k (.text least most pattern) ∈ (schema n).fields)
    {t : String} (ht : p.text? name = some t) : textFault? least most pattern t = none := by
  rcases h.maybe hf with hnull | ⟨w, l, hw⟩
  · simp [Part.text?, hnull, Instance.text?] at ht
  · rw [checker_text] at hw
    obtain ⟨a, -, ha, hfield⟩ := readWith_eq_ok.mp hw
    obtain rfl : a = t := by simpa [Part.text?, hfield, Instance.text?] using ht
    exact ha

theorem word_of_maybe {words : List String} (h : Accepted n p)
    (hf : .maybe name k (.oneOf words) ∈ (schema n).fields) {t : String}
      (ht : p.text? name = some t) :
    t ∈ words := by
  rcases h.maybe hf with hnull | ⟨w, l, hw⟩
  · simp [Part.text?, hnull, Instance.text?] at ht
  · obtain ⟨a, ha, rfl, hfield⟩ := checker_oneOf_eq_ok.mp hw
    obtain rfl : a = t := by simpa [Part.text?, hfield, Instance.text?] using ht
    exact ha

theorem part (h : Accepted n p) (hf : .maybe name k (.model m) ∈ (schema n).fields)
    (hq : p.part? name = some q) : Accepted m q := by
  rcases h.maybe hf with hnull | ⟨w, l, hw⟩
  · simp [Part.part?, hnull, Instance.some?, Instance.isNull] at hq
  · simp only [Part.part?, Instance.some?] at hq
    split at hq
    · simp at hq
    · exact ⟨w, l, Option.some.inj hq ▸ hw⟩

theorem of_checker_list {i : Part} {v : Value} {l : Nat}
    (h : v.checker schema l (.list least s) = .ok i) :
    ∃ qs, Instance.items? i = some qs ∧ least ≤ qs.length ∧
      ∀ q ∈ qs, ∃ w l, Value.checker schema w l s = .ok q := by
  obtain ⟨vs, qs, -, rfl, hl, hqs⟩ := checker_list h
  refine ⟨qs, rfl, hl, fun q hq => ?_⟩
  obtain ⟨w, -, hw⟩ := exists_left_of_forall₂ hqs hq
  exact ⟨w, l, hw⟩

theorem items (h : Accepted n p) (hf : .required name k (.list least s) ∈ (schema n).fields) :
    ∃ qs, p.items? name = some qs ∧ least ≤ qs.length ∧
      ∀ q ∈ qs, ∃ w l, Value.checker schema w l s = .ok q := by
  obtain ⟨w, l, hw⟩ := h.required hf
  exact of_checker_list hw

theorem items_of_maybe (h : Accepted n p)
    (hf : .maybe name k (.list least s) ∈ (schema n).fields) :
    ∀ q ∈ (p.items? name).getD [], ∃ w l, Value.checker schema w l s = .ok q := by
  rcases h.maybe hf with hnull | ⟨w, l, hw⟩
  · simp [Part.items?, hnull, Instance.items?]
  · obtain ⟨qs, hqs, -, hq⟩ := of_checker_list hw
    simpa [Part.items?, hqs] using hq

theorem le_length_texts (h : Accepted n p)
    (hf : .required name k (.list least s) ∈ (schema n).fields) :
    least ≤ ((p.texts? name).getD []).length := by
  obtain ⟨qs, hqs, hl, -⟩ := h.items hf
  simpa [Part.texts?, hqs] using hl

end Accepted

theorem some?_ne {p : Part} {name t : String} (h : p.some? name = some t) : t ≠ "" := by
  simpa using (Option.filter_eq_some_iff.mp h).2

/-- A relation names what it leads to, and so does its other side. -/
structure Relation.Sound (r : Relation) : Prop where
  targetEntity_proper : Text.IsProper r.targetEntity
  reverse_proper : ∀ s, r.reverse = some s → Text.IsProper s.fieldName

/-- An authored field has a name, and its bounds can be kept. -/
structure AuthoredField.Sound (f : AuthoredField) : Prop where
  name_proper : Text.IsProper f.name
  enumName_ne : ∀ n, f.enumName = some n → n ≠ ""
  maxLength_pos : ∀ n, f.maxLength = some n → 0 < n
  minLength_nonneg : ∀ n, f.minLength = some n → 0 ≤ n
  relation_sound : ∀ r, f.relation = some r → r.Sound

/-- A text that is there and not empty. -/
def IsGiven (t : Option String) : Prop :=
  ∃ s, t = some s ∧ s ≠ ""

structure Join.Sound (j : Join) : Prop where
  foreignKey_proper : Text.IsProper j.foreignKey
  targetEntity_proper : Text.IsProper j.targetEntity
  targetField_proper : Text.IsProper j.targetField

/-- A source has the parts that its type needs. -/
structure FieldSource.Sound (s : FieldSource) : Prop where
  type_mem : s.type ∈ ["relation", "field", "computed", "join"]
  relation_given : s.type = "relation" → IsGiven s.relation
  field_given : s.type = "field" → IsGiven s.entity ∧ IsGiven s.field
  expression_given : s.type = "computed" → IsGiven s.expression
  join_sound : s.type = "join" → ∃ j, s.join = some j ∧ j.Sound

/-- A new entity has a name and fields, and whatever names something for it is not empty. -/
structure AddEntity.Sound (i : AddEntity) : Prop where
  entity_proper : Text.IsProper i.entity
  fields_some : 1 ≤ i.fields.length
  fields_sound : ∀ f ∈ i.fields, f.Sound
  index_some : ∀ x ∈ i.indexes, x.fields ≠ []
  tableName_ne : ∀ t, i.tableName = some t → t ≠ ""
  tenantColumn_ne : ∀ t, i.tenantColumn = some t → t ≠ ""
  mode_mem : ∀ s, i.seed = some s → s.mode ∈ ["Random", "Fixtures"]

/-- An endpoint of a capability has a method out of a few and a path from the root, if it has
them. -/
structure CapabilityEndpoint.Sound (e : CapabilityEndpoint) : Prop where
  method_mem : ∀ m, e.method = some m → m ∈ ["GET", "POST", "PUT", "PATCH", "DELETE"]
  path_rooted : ∀ t, e.path = some t → textFault? 0 none (some .rooted) t = none

/-- A capability is one out of a few, for a framework that has a name, and what it leaves to be
configured is from JSON. -/
structure AddCapability.Sound (i : AddCapability) : Prop where
  capability_mem : i.capability ∈
    ["auth", "email", "storage", "billing", "file_upload", "file_stream", "sse", "websocket"]
  framework_proper : Text.IsProper i.framework
  endpoints_sound : ∀ e ∈ i.endpoints, e.Sound
  config_json : ∀ e ∈ i.config, e.2.IsJson
  buckets_json : ∀ bucket ∈ i.buckets, bucket.IsJson

namespace Accepted

variable {p : Part}

theorem reverse (h : Accepted .reverseRelation p) : Text.IsProper (Reverse.ofPart p).fieldName :=
  h.isProper_text (k := "field_name") (by simp [schema, reverseRelation])

/-- Relations on fields and on their own are sound alike. -/
theorem relation {n : Name} (h : Accepted n p)
    (htarget : .required "target_entity" "target_entity" .someText ∈ (schema n).fields)
    (hreverse : .maybe "reverse" "reverse" (.model .reverseRelation) ∈ (schema n).fields) :
    (Relation.ofPart p).Sound where
  targetEntity_proper := h.isProper_text htarget
  reverse_proper := by
    intro s hs
    obtain ⟨q, hq, rfl⟩ := Option.map_eq_some_iff.mp hs
    exact (h.part hreverse hq).reverse

theorem field (h : Accepted .field p) : (AuthoredField.ofPart p).Sound where
  name_proper := h.isProper_text (k := "name") (by simp [schema, Intent.field])
  enumName_ne := fun _ hn => some?_ne hn
  maxLength_pos := by
    intro n hn
    have hb := h.whole (k := "max_length") (b := { above := some 0 })
      (by simp [schema, Intent.field]) hn
    simpa [boundFault?] using hb
  minLength_nonneg := by
    intro n hn
    have hb := h.whole (k := "min_length") (b := { least := some 0 })
      (by simp [schema, Intent.field]) hn
    simpa [boundFault?] using hb
  relation_sound := by
    intro r hr
    obtain ⟨q, hq, rfl⟩ := Option.map_eq_some_iff.mp hr
    exact (h.part (k := "relation") (m := .fieldRelation) (by simp [schema, Intent.field])
      hq).relation (by simp [schema, fieldRelation]) (by simp [schema, fieldRelation])

theorem fields {n : Name} {name k : String} {least : Nat} (h : Accepted n p)
    (hf : .required name k (.list least (.model .field)) ∈ (schema n).fields) :
    least ≤ (Part.fields p name).length ∧ ∀ f ∈ Part.fields p name, f.Sound := by
  obtain ⟨qs, hqs, hl, hq⟩ := h.items hf
  simp only [Part.fields, hqs, Option.getD_some, List.length_map, List.forall_mem_map]
  exact ⟨hl, fun q hmem => field (hq q hmem)⟩

theorem fields_of_maybe {n : Name} {name k : String} {least : Nat} (h : Accepted n p)
    (hf : .maybe name k (.list least (.model .field)) ∈ (schema n).fields) :
    ∀ f ∈ Part.fields p name, f.Sound := by
  simp only [Part.fields, List.forall_mem_map]
  exact fun q hq => field (h.items_of_maybe hf q hq)

theorem addEntity (h : Accepted .addEntity p) : (AddEntity.ofPart p).Sound := by
  have hfields : 1 ≤ (Part.fields p "fields").length ∧ ∀ f ∈ Part.fields p "fields", f.Sound :=
    h.fields (k := "fields") (by simp [schema, Intent.addEntity])
  refine ⟨h.isProper_text (k := "entity") (by simp [schema, Intent.addEntity]),
    hfields.1, hfields.2, ?_, fun _ ht => some?_ne ht, fun _ ht => some?_ne ht, fun s hs => ?_⟩
  · have hindexes : .maybe "indexes" "indexes" (.list 0 (.model .index)) ∈
      (schema .addEntity).fields := by
      simp [schema, Intent.addEntity]
    simp only [AddEntity.ofPart, List.forall_mem_map]
    intro q hq
    have hlen : 1 ≤ ((Part.texts? q "fields").getD []).length :=
      le_length_texts (k := "fields") (s := .anyText) (h.items_of_maybe hindexes q hq)
        (by simp [schema, Intent.index])
    exact List.length_pos_iff.mp hlen
  · obtain ⟨q, hq, rfl⟩ := Option.map_eq_some_iff.mp hs
    have hseed : Accepted .seed q :=
      h.part (k := "seed") (by simp [schema, Intent.addEntity]) hq
    exact hseed.word_of_defaulted (k := "mode") (t := "Random") (by simp [schema, Intent.seed])
      (by decide)

theorem join (h : Accepted .join p) : (Join.ofPart p).Sound where
  foreignKey_proper := h.isProper_text (k := "foreign_key") (by simp [schema, Intent.join])
  targetEntity_proper := h.isProper_text (k := "target_entity") (by simp [schema, Intent.join])
  targetField_proper := h.isProper_text (k := "target_field") (by simp [schema, Intent.join])

/-- A text that counts as a part of a source is given. -/
theorem isGiven_text? {n : Name} {name k : String} (h : Accepted n p)
    (hf : .maybe name k .anyText ∈ (schema n).fields) (hpart : isPart (p.get name) = true) :
    IsGiven (p.text? name) := by
  rcases h.maybe hf with hnull | ⟨w, l, hw⟩
  · simp [hnull, isPart, Value.truthy] at hpart
  · rw [checker_text] at hw
    obtain ⟨t, -, -, hfield⟩ := readWith_eq_ok.mp hw
    rw [hfield] at hpart
    exact ⟨t, by simp [Part.text?, hfield, Instance.text?],
      by simpa [isPart, Value.truthy] using hpart⟩

/-- A source that is accepted has its parts. -/
theorem isPart_of_mem (h : Accepted .fieldSource p) :
    ∀ name ∈ requiredParts (p.text "type"), isPart (p.get name) = true := by
  obtain ⟨v, l, hp⟩ := h
  obtain ⟨es, values, -, -, -, -, hr, -⟩ := checker_model hp
  have hrule : ruleFault? schema .sourceParts p = none := hr
  simp only [ruleFault?] at hrule
  split at hrule
  · rename_i hempty
    simpa [List.filter_eq_nil_iff, Part.text, Part.get] using hempty
  · simp at hrule

theorem source (h : Accepted .fieldSource p) : (FieldSource.ofPart p).Sound := by
  have hparts := h.isPart_of_mem
  have given : ∀ {name : String}, .maybe name name .anyText ∈ (schema .fieldSource).fields →
      name ∈ requiredParts (p.text "type") → IsGiven (p.text? name) :=
    fun hf hname => h.isGiven_text? hf (hparts _ hname)
  refine ⟨h.word (k := "type") (by simp [schema, fieldSource]), fun ht => ?_, fun ht => ?_,
    fun ht => ?_, fun ht => ?_⟩
  · exact given (by simp [schema, fieldSource]) (by rw [show p.text "type" = _ from ht]; decide)
  · exact ⟨given (by simp [schema, fieldSource]) (by rw [show p.text "type" = _ from ht]; decide),
      given (by simp [schema, fieldSource]) (by rw [show p.text "type" = _ from ht]; decide)⟩
  · exact given (by simp [schema, fieldSource]) (by rw [show p.text "type" = _ from ht]; decide)
  · have hjoin := hparts "join" (by rw [show p.text "type" = _ from ht]; decide)
    have hnull : Instance.isNull (p.get "join") = false := by
      cases hj : p.get "join" with
      | plain v => cases v <;> simp_all [isPart, Value.truthy, Instance.isNull]
      | _ => rfl
    have hpart : p.part? "join" = some (p.get "join") := by simp [Part.part?, Instance.some?, hnull]
    exact ⟨.ofPart (p.get "join"), by simp [FieldSource.ofPart, hpart],
      (h.part (k := "join") (by simp [schema, fieldSource]) hpart).join⟩

theorem update (h : Accepted .fieldUpdate p) :
    Text.IsProper (FieldUpdate.ofPart p).name ∧ (FieldUpdate.ofPart p).source.Sound := by
  have hsource : .required "source" "source" (.model .fieldSource) ∈
    (schema .fieldUpdate).fields := by
    simp [schema, fieldUpdate]
  obtain ⟨w, l, hw⟩ := h.required hsource
  exact ⟨h.isProper_text (k := "name") (by simp [schema, fieldUpdate]), source ⟨w, l, hw⟩⟩

theorem capabilityEndpoint (h : Accepted .capabilityEndpoint p) :
    (CapabilityEndpoint.ofPart p).Sound where
  method_mem _ hm := h.word_of_maybe (k := "method")
    (by simp [schema, Intent.capabilityEndpoint, httpMethod]) hm
  path_rooted _ ht := h.text_of_maybe (k := "path") (by simp [schema, Intent.capabilityEndpoint]) ht

end Accepted

section Json

variable {p : Part} {name : String}

theorem isJson_value (h : p.HoldsOnly Value.IsJson) : p.value.IsJson := by
  cases p with
  | plain v => exact Instance.holdsOnly_plain.mp h
  | _ => exact .null

theorem isJson_of_mem_mapping (h : p.HoldsOnly Value.IsJson) :
    ∀ e ∈ (p.mapping? name).getD [], e.2.IsJson := by
  have hvalue : (p.get name).HoldsOnly Value.IsJson := h.field .null name
  unfold Part.mapping?
  cases hfield : p.get name with
  | plain v =>
    rw [hfield, Instance.holdsOnly_plain] at hvalue
    cases hvalue with
    | obj hes => simpa [Value.entries?] using hes
    | _ => simp [Value.entries?]
  | _ => simp

/-- A capability that is read from JSON is sound. -/
theorem AddCapability.sound_of_parse {v : Value} (hv : v.IsJson)
    (h : parse .addCapability v = .ok p) : (AddCapability.ofPart p).Sound := by
  have haccepted := accepted_of_parse h
  have hjson : p.HoldsOnly Value.IsJson := Instance.isJson_of_reads schema_faithful hv
    (reads_of_parse h)
  have hendpoints : .maybe "endpoints" "endpoints" (.list 0 (.model .capabilityEndpoint)) ∈
      (schema .addCapability).fields := by simp [schema, Intent.addCapability]
  refine ⟨
    haccepted.word (k := "capability") (by simp [schema, Intent.addCapability, capabilityKind]),
    haccepted.isProper_text (k := "framework") (by simp [schema, Intent.addCapability]), ?_,
    isJson_of_mem_mapping hjson, ?_⟩
  · simp only [AddCapability.ofPart, List.forall_mem_map]
    exact fun q hq => Accepted.capabilityEndpoint (haccepted.items_of_maybe hendpoints q hq)
  · simp only [AddCapability.ofPart, List.forall_mem_map, Part.items?, items?_getD]
    exact fun q hq => isJson_value ((hjson.field .null "buckets").of_mem_items hq)

end Json

end SchemaIntents.Intent
