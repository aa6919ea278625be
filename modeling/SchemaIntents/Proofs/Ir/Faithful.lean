import SchemaIntents.Ir.Envelope
import SchemaIntents.Proofs.Shape.Gaps
import SchemaIntents.Proofs.Shape.Writing

/-! The schema of envelopes can be written and read again. The one required value that may be null
is that of a literal seed generator. -/
namespace SchemaIntents.Ir

open Instance Shape

theorem schema_faithful : schema.Faithful where
  shapes := by
    intro n
    cases n <;> decide
  wires := by
    intro n
    cases n <;> decide
  whole := by
    intro n
    cases n <;> decide +kernel
  names := by
    intro n
    cases n <;> decide
  settled := by
    intro n
    cases n <;> decide

instance : schema.Whole :=
  schema_faithful.toWhole

theorem envelope_isFaithful : envelope.isFaithful schema = true := by
  decide

theorem names_nodup (n : Name) : ((schema n).fields.map (·.name)).Nodup := by
  cases n <;> decide

/-- All models but a literal seed generator and those that lead to it. -/
def isSolid : Name → Bool
  | .literalGenerator | .seed | .entity | .addEntity => false
  | _ => true

theorem solid : Solid schema isSolid := by
  intro n
  cases n <;> decide

namespace Part

/-- The seed generators of the entity in an envelope, by the fields that they are for. -/
def generatorEntries (x : Part) : List (String × Part) :=
  (Part.get (Part.get (Part.get x "entity") "seed") "generator_by_field").entries

/-- The seed generators at the keys that they are written with. -/
def seedGenerators (x : Part) : List (String × Part) :=
  Value.mendKeys x.generatorEntries

/-- A literal seed generator whose value is null. -/
def isNullLiteral (g : Part) : Bool :=
  Part.kind g == "Literal" && (Part.get g "value").isNull

/-- The fields whose seed generator is a literal without a value. -/
def nullLiterals (x : Part) : List String :=
  ((seedGenerators x).filter fun e => isNullLiteral e.2).map (·.1)

/-- Where the value of the literal generator for a field is missing. -/
def literalPlace (field : String) : Location :=
  [.key "AddEntity", .key "entity", .key "seed", .key "generatorByField", .key field,
    .key "Literal", .key "value"]

@[simp] theorem get_plain (v : Value) (name : String) :
    Part.get (.plain v) name = .plain .null := rfl

/-- The values in an envelope that may be anything. -/
def freeValues (x : Part) : List Value :=
  x.freeValuesAs schema .any

end Part

theorem isNull_of_reads_model {l : Nat} {n : Name} {v : Value} {x : Part}
    (h : Reads schema l (.model n) v x) : x.isNull = false := by
  cases h with
  | plain hp => simp [isPlain] at hp
  | model => rfl

/-- The gaps of a model whose one field that is not solid is a model again. -/
theorem gaps_of_required (name wire : String) {l : Nat} {n m : Name} {v : Value} {x : Part}
    (h : Reads schema l (.model n) v x) (hf : .required name wire (.model m) ∈ (schema n).fields)
    (hrest : ∀ g ∈ (schema n).fields, g.wire ≠ wire → g.isSolid isSolid = true) :
    x.gapsAs schema (.model n) =
      ((x.get name).gapsAs schema (.model m)).map (.key wire :: ·) ∧
      ∃ k w, Reads schema k (.model m) w (x.get name) := by
  obtain ⟨hg, hread⟩ := gapsAs_single schema_faithful solid names_nodup h hf hrest
  obtain ⟨k, w, hr⟩ := hread (by simp [Field.required])
  simp only [Field.required] at hg hr
  have hthere : ¬ (x.field schema name).isNull = true :=
    ne_true_of_eq_false (isNull_of_reads_model hr)
  exact ⟨by rw [hg, gapsField, if_neg hthere]; rfl, k, w, hr⟩

/-- The gaps of a model whose one field that is not solid may be absent. -/
theorem gaps_of_maybe (name wire : String) {l : Nat} {n : Name} {s : Shape Name} {v : Value}
    {x : Part} (h : Reads schema l (.model n) v x)
    (hf : .maybe name wire s ∈ (schema n).fields)
    (hrest : ∀ g ∈ (schema n).fields, g.wire ≠ wire → g.isSolid isSolid = true) :
    (x.get name = .plain .null ∧ x.gapsAs schema (.model n) = []) ∨
      x.gapsAs schema (.model n) = ((x.get name).gapsAs schema s).map (.key wire :: ·) ∧
        ∃ k w, Reads schema k s w (x.get name) := by
  obtain ⟨hg, hread⟩ := gapsAs_single schema_faithful solid names_nodup h hf hrest
  by_cases hx : x.get name = .plain .null
  · refine .inl ⟨hx, ?_⟩
    rw [hg]
    simp only [Part.get] at hx
    simp [gapsField, Field.maybe, hx, isNull]
  · have hnull : ∀ d, (Field.maybe name wire s).fallback = some d → x.get name ≠ .ofValue d := by
      rintro d hd he
      obtain rfl := Option.some.inj hd
      exact hx he
    obtain ⟨k, w, hr⟩ := hread hnull
    have hne : ¬ (x.field schema name).isNull = true := fun h => hx (isNull_iff.mp h)
    refine .inr ⟨?_, k, w, ?_⟩
    · rw [hg]
      simp [gapsField, Field.maybe, hne, gapsAs_optional, Part.get]
    · generalize hy : x.get name = y at hx
      simp only [Part.get] at hy
      simp only [Field.maybe, hy] at hr
      cases hr with
      | plain hp => simp [isPlain] at hp
      | null => exact absurd rfl hx
      | some _ hr => exact hr

/-- The tag of what is read by its kind is its kind. -/
theorem kind_of_mem {n : Name} {given : List Bool} {values : List Part}
    {f : Field Name} {t : String}
    (hmem : (f, .plain (.str t)) ∈ (schema n).fields.zip values) (hw : f.wire = "kind") :
    Part.kind (.model n given values) = t := by
  have name_of_wire : ∀ n, ∀ f ∈ (schema n).fields, f.wire = "kind" → f.name = "kind" := by
    intro n
    cases n <;> decide
  have hf : (model n given values).field schema f.name = .plain (.str t) :=
    field_model (names_nodup n) hmem
  rw [name_of_wire n f (List.of_mem_zip hmem).1 hw] at hf
  simp [Part.kind, Part.get, hf, Instance.text, text?]

/-- What is chosen by its tag has the gaps of its model, seen from under the tag. -/
theorem gapsAs_tagged {tag t : String} {choices : List (String × Name)} {n : Name}
    {given : List Bool} {values : List Part} {f : Field Name}
    (hmem : (f, .plain (.str t)) ∈ (schema n).fields.zip values) (hw : f.wire = tag) :
    (model n given values).gapsAs schema (.tagged tag choices) =
      ((model n given values).gapsAs schema (.model n)).map (.key t :: ·) := by
  rw [gapsAs_model, gapsAs, tagSteps_tagged schema_faithful hmem hw]
  rfl

theorem plain_of_reads_any {l : Nat} {v : Value} {x : Part} (h : Reads schema l .any v x) :
    ∃ w, x = .plain w := by
  cases h with
  | plain => exact ⟨_, rfl⟩

/-- A seed generator lacks its value just when it is a literal that is null. -/
theorem gaps_seedGenerator {l : Nat} {v : Value} {g : Part} (h : Reads schema l seedGenerator v g) :
    g.gapsAs schema seedGenerator =
      if g.isNullLiteral then [[.key "Literal", .key "value"]] else [] := by
  unfold seedGenerator at h ⊢
  cases h with
  | plain hp => simp [isPlain] at hp
  | @tagged _ _ t _ n _ given values f hc hmem hw hr =>
    rw [gapsAs_tagged hmem hw, Part.isNullLiteral, kind_of_mem hmem hw]
    have hchoice := List.mem_of_find?_eq_some hc
    simp only [List.mem_cons, Prod.mk.injEq, List.not_mem_nil, or_false] at hchoice
    rcases hchoice with ⟨rfl, rfl⟩ | ⟨rfl, rfl⟩ | ⟨rfl, rfl⟩ | ⟨rfl, rfl⟩
    case inr.inr.inl =>
      have hvalue : .required "value" "value" .any ∈ (schema .literalGenerator).fields := by
        simp [schema, literalGenerator]
      obtain ⟨hg, hread⟩ := gapsAs_single schema_faithful solid names_nodup hr hvalue (by decide)
      obtain ⟨k, w, hu⟩ := hread (by simp [Field.required])
      obtain ⟨u, hu⟩ := plain_of_reads_any hu
      simp only [Field.required] at hg hu
      rw [hg, hu]
      by_cases hn : (plain u : Part).isNull = true <;> simp [gapsField, Part.get, hu, hn, gapsAs]
    all_goals simp [gapsAs_eq_nil schema_faithful solid hr rfl]

/-- A table of seed generators lacks the values of those that are null. -/
theorem gaps_generators {l : Nat} {v : Value} {x : Part}
    (h : Reads schema l (.table seedGenerator) v x)
    (hk : ∀ e ∈ x.entries, Text.isTorn e.1 = false) :
    x.gapsAs schema (.table seedGenerator) =
      ((x.entries.filter fun e => Part.isNullLiteral e.2).map (·.1)).map
        fun k => [.key k, .key "Literal", .key "value"] := by
  cases h with
  | plain hp => simp [isPlain] at hp
  | @table _ _ _ es origin ho hread =>
    have each : ∀ e ∈ es, (e.2.gapsAs schema seedGenerator).map (Step.key (Text.mended e.1) :: ·) =
        if Part.isNullLiteral e.2 then [[.key e.1, .key "Literal", .key "value"]] else [] := by
      intro e he
      rw [gaps_seedGenerator (hread e he), Text.mended_eq_self (hk e he)]
      cases Part.isNullLiteral e.2 <;> rfl
    rw [gapsAs, gapsEntries_eq]
    simp only [part, Instance.entries]
    clear hread ho hk
    induction es with
    | nil => rfl
    | cons e es ih =>
      rw [List.forall_mem_cons] at each
      rw [List.flatMap_cons, each.1, ih each.2]
      cases hl : Part.isNullLiteral e.2 <;> simp [hl]

/-- An envelope lacks, where it is written and read again, just the values of its literal seed
generators that are null. -/
theorem gaps_envelope {l : Nat} {v : Value} {x : Part} (h : Reads schema l envelope v x)
    (hk : ∀ e ∈ x.generatorEntries, Text.isTorn e.1 = false) :
    x.gapsAs schema envelope = x.nullLiterals.map Part.literalPlace := by
  rw [Part.nullLiterals, Part.seedGenerators, Value.mendKeys_eq_self hk]
  unfold Part.generatorEntries at hk ⊢
  unfold envelope at h ⊢
  cases h with
  | plain hp => simp [isPlain] at hp
  | @tagged _ _ t _ n _ given values f hc hmem hw hr =>
    rw [gapsAs_tagged hmem hw]
    have hchoice := List.mem_of_find?_eq_some hc
    simp only [List.mem_cons, Prod.mk.injEq, List.not_mem_nil, or_false] at hchoice
    rcases hchoice with ⟨rfl, rfl⟩ | hchoice
    · obtain ⟨hg, _, _, hentity⟩ := gaps_of_required "entity" "entity" (m := .entity) hr
        (by simp [schema, addEntity]) (by decide)
      rw [hg]
      generalize Part.get (model .addEntity given values) "entity" = e at hentity hk ⊢
      rcases gaps_of_maybe "seed" "seed" (s := .model .seed) hentity
          (by simp [schema, entity]) (by decide) with ⟨hnone, hg⟩ | ⟨hg, _, _, hseed⟩
      · simp [hg, hnone, Instance.entries]
      rw [hg]
      generalize Part.get e "seed" = d at hseed hk ⊢
      rcases gaps_of_maybe "generator_by_field" "generatorByField" (s := .table seedGenerator) hseed
          (by simp [schema, seed]) (by decide) with ⟨hnone, hg⟩ | ⟨hg, _, _, htable⟩
      · simp [hg, hnone, Instance.entries]
      rw [hg, gaps_generators htable hk]
      simp [Part.literalPlace, Function.comp_def]
    · have other : isSolid n = true ∧ ∀ g ∈ (schema n).fields, g.name ≠ "entity" := by
        rcases hchoice with ⟨-, rfl⟩ | ⟨-, rfl⟩ | ⟨-, rfl⟩ | ⟨-, rfl⟩ | ⟨-, rfl⟩ | ⟨-,
          rfl⟩ | ⟨-, rfl⟩ | ⟨-, rfl⟩ | ⟨-, rfl⟩ | ⟨-, rfl⟩ <;> decide
      have hentity : Part.get (model n given values) "entity" = .plain .null :=
        field_model_of_ne other.2
      rw [gapsAs_eq_nil schema_faithful solid hr other.1]
      simp [hentity, Instance.entries]

end SchemaIntents.Ir
