import SchemaIntents.Proofs.Resolved.Entity
import SchemaIntents.Proofs.Shape.Deciding

/-! What an entity may ask for that the schema of envelopes has no place for, and what of a resolved
entity fits the schema without more. -/
namespace SchemaIntents

open Shape

namespace Intent

/-- Rows to start with that no envelope can hold: for no environment or an unknown one, a number of
them that is not positive, or values that are made in no known way. -/
inductive Seed.Unfit (s : Seed) : Prop
  | nowhere : s.environments = [] → Unfit s
  | elsewhere {e : String} : e ∈ s.environments → e ∉ ["dev", "preview", "test", "prod"] → Unfit s
  | count {n : Int} : s.count = some n → n ≤ 0 → Unfit s
  | generator {g : String × Value} : g ∈ s.generators →
      (∀ i, g.2.check Ir.schema Ir.seedGenerator ≠ .ok i) → Unfit s

/-- An entity that no envelope can hold: a group of no fields is to be unique, the name that is
given to its table or the type of a field has halves of pairs, or its rows are unfit. -/
inductive AddEntity.Unfit (i : AddEntity) : Prop
  | group : [] ∈ i.unique → Unfit i
  | table {name : String} : i.tableName = some name → Text.isTorn name = true → Unfit i
  | type : Resolved.HasTornType i.entity i.fields → Unfit i
  | seed {s : Seed} : i.seed = some s → s.Unfit → Unfit i

theorem Seed.not_unfit_iff {s : Seed} : ¬ s.Unfit ↔
    (1 ≤ s.environments.length ∧ ∀ e ∈ s.environments, e ∈ ["dev", "preview", "test", "prod"]) ∧
      (∀ n, s.count = some n → 0 < n) ∧
      ∀ g ∈ s.generators, ∃ i, g.2.check Ir.schema Ir.seedGenerator = .ok i := by
  constructor
  · intro h
    refine ⟨⟨?_, fun e he => ?_⟩, fun n hn => ?_, fun g hg => ?_⟩
    · exact List.length_pos_iff.mpr fun hnone => h (.nowhere hnone)
    · exact by_contra fun hword => h (.elsewhere he hword)
    · exact Int.not_le.mp fun hle => h (.count hn hle)
    · exact by_contra fun hnone => h (.generator hg (not_exists.mp hnone))
  · rintro ⟨⟨hlen, hwords⟩, hcount, hgenerators⟩ hunfit
    cases hunfit with
    | nowhere hnone => simp [hnone] at hlen
    | elsewhere he hword => exact hword (hwords _ he)
    | count hn hle => exact absurd (hcount _ hn) (Int.not_lt.mpr hle)
    | generator hg hnone => exact not_exists.mpr hnone (hgenerators _ hg)

theorem AddEntity.not_unfit_iff {i : AddEntity} :
    ¬ i.Unfit ↔ (∀ name, i.tableName = some name → Text.isTorn name = false) ∧
      ¬ Resolved.HasTornType i.entity i.fields ∧ [] ∉ i.unique ∧
      ∀ s, i.seed = some s → ¬ s.Unfit := by
  constructor
  · intro h
    exact ⟨fun name hname => Bool.eq_false_iff.mpr fun htorn => h (.table hname htorn),
      fun htype => h (.type htype), fun hgroup => h (.group hgroup),
      fun s hs hunfit => h (.seed hs hunfit)⟩
  · rintro ⟨htable, htype, hgroup, hseed⟩ hunfit
    cases hunfit with
    | group hmem => exact hgroup hmem
    | table hname htorn => exact Bool.noConfusion ((htable _ hname).symm.trans htorn)
    | type htorn => exact htype htorn
    | seed hs hunfit => exact hseed _ hs hunfit

end Intent

namespace Resolved

variable {l : Nat}

section Seed

/-- The ways in which seed values are made take no levels. -/
theorem flat_seedGenerator : IsFlat Ir.schema Ir.seedGenerator := by
  refine .tagged ?_
  simp only [List.forall_mem_cons, List.not_mem_nil, false_implies, implies_true, and_true]
  refine ⟨.model rfl rfl ?_, .model rfl rfl ?_, .model rfl rfl ?_, .model rfl rfl ?_⟩
  · simp [Ir.schema, Ir.fakerGenerator, flat_oneOf, flat_text]
  · simp [Ir.schema, Ir.enumWeightsGenerator, flat_oneOf, flat_text.list, flat_real.list.optional]
  · simp [Ir.schema, Ir.literalGenerator, flat_oneOf, flat_any]
  · simp [Ir.schema, Ir.sequentialGenerator, flat_oneOf, flat_real.optional]

theorem decides_count (n : Int) :
    Decides ((Value.int n).checker Ir.schema l (.whole { above := some 0 })) (0 < n) :=
  decides_whole.congr (by simp [boundFault?])

/-- Rows to start with fit just when they are not unfit. -/
theorem decides_seed {s : Intent.Seed} (hmode : s.mode ∈ ["Random", "Fixtures"]) :
    Decides ((seedValue s).checker Ir.schema l (.model .seed)) (¬ s.Unfit) := by
  have henvironments : Decides ((Value.texts s.environments).checker Ir.schema l
      (.list 1 (.oneOf ["dev", "preview", "test", "prod"]))) _ :=
    decides_map fun _ _ => decides_oneOf
  have hcount : DecidesAt Ir.schema l (.optional (.whole { above := some 0 })) s.count.isNone
      (s.count.map .int) (∀ n, s.count = some n → 0 < n) :=
    decidesAt_map (by simp) fun n _ => ⟨by simp, decides_count n⟩
  have hgenerators : DecidesAt Ir.schema l (.optional (.table Ir.seedGenerator)) true
      (if s.generators = [] then none else some (.obj s.generators))
      (∀ g ∈ s.generators, ∃ i, g.2.check Ir.schema Ir.seedGenerator = .ok i) := by
    cases hg : s.generators with
    | nil => simp
    | cons g gs =>
      rw [if_neg (by simp), decidesAt_some, checker_optional (by simp)]
      exact decides_table fun g _ => flat_seedGenerator.decides g.2 l
  refine (decides_present (p := fun key =>
      (key = "environments" → 1 ≤ s.environments.length ∧
        ∀ e ∈ s.environments, e ∈ ["dev", "preview", "test", "prod"]) ∧
      (key = "count" → ∀ n, s.count = some n → 0 < n) ∧
      (key = "generatorByField" →
        ∀ g ∈ s.generators, ∃ i, g.2.check Ir.schema Ir.seedGenerator = .ok i))
    (Nat.zero_le _) rfl rfl ?_).congr ?_
  · simp [Ir.schema, Ir.seed]
    exact ⟨by simpa using hmode, by simpa using henvironments, by simpa using hcount,
      by simpa using hgenerators⟩
  · rw [Intent.Seed.not_unfit_iff]
    simp [Ir.schema, Ir.seed]

end Seed
section Constraints

/-- A constraint on named fields fits just when there are some. -/
theorem decides_constraint {k : Constraint} (h : ∀ t ∈ k.fields, Text.IsProper t) :
    Decides (k.toValue.checker Ir.schema l Ir.constraint) (k.fields ≠ []) := by
  have hfields : Decides ((Value.texts k.fields).checker Ir.schema l (.list 1 .someText))
      (k.fields ≠ []) := by
    refine (decides_map (p := fun _ => True) fun t ht => ?_).congr ?_
    · simpa using h t ht
    · simp [Nat.one_le_iff_ne_zero]
  cases k with
  | unique fields =>
    refine decides_tagged rfl rfl ((decides_obj (n := Ir.Name.uniqueConstraint)
      (p := fun key => key = "fields" → fields ≠ []) (Nat.zero_le _) rfl rfl ?_).congr ?_)
    · simp [Ir.schema, Ir.uniqueConstraint]
      simpa [Value.find?, Constraint.fields] using hfields
    · simp [Ir.schema, Ir.uniqueConstraint, Constraint.fields]
  | index fields distinct name type =>
    refine decides_tagged rfl rfl ((decides_present (n := Ir.Name.indexConstraint)
      (p := fun key => key = "fields" → fields ≠ []) (Nat.zero_le _) rfl rfl ?_).congr ?_)
    · simp [Ir.schema, Ir.indexConstraint]
      simpa [Constraint.fields] using hfields
    · simp [Ir.schema, Ir.indexConstraint, Constraint.fields]

theorem decides_constraints {ks : List Constraint} (h : ∀ k ∈ ks, ∀ t ∈ k.fields, Text.IsProper t) :
    DecidesAt Ir.schema l (.optional (.list 0 Ir.constraint))
      (Value.someList (ks.map Constraint.toValue)).isNone
        (Value.someList (ks.map Constraint.toValue))
      (∀ k ∈ ks, k.fields ≠ []) := by
  cases ks with
  | nil => simp
  | cons k ks =>
    refine (decidesAt_some.mpr ?_ : DecidesAt
      _ _ _ _ (some (.list ((k :: ks).map Constraint.toValue))) _)
    rw [checker_optional (by simp)]
    exact (decides_map fun j hj => decides_constraint (h j hj)).congr
      (and_iff_right (Nat.zero_le _))

/-- All constraints of an entity have fields if no group of no fields is to be unique. -/
theorem forall_constraints_iff {i : Intent.AddEntity} {fields : List Field} {auto : Bool}
    (hindexes : ∀ x ∈ i.indexes, x.fields ≠ []) :
    (∀ k ∈ (constraints auto i fields).2, k.fields ≠ []) ↔ [] ∉ i.unique := by
  constructor
  · exact fun h hgroup => h _ (unique_mem_constraints hgroup) rfl
  · intro h k hk
    rcases constraints_cases hk with ⟨group, hg, rfl⟩ | ⟨x, hx, rfl⟩ | ⟨n, -, rfl⟩
    · exact fun hnil => h (hnil ▸ hg)
    · exact hindexes x hx
    · simp [Constraint.plainIndex, Constraint.fields]

end Constraints

theorem fits_primaryKey {keys : List String} (hk : keys ≠ [])
    (h : ∀ key ∈ keys, Text.IsProper key) :
    Finds ((primaryKey keys).checker Ir.schema l Ir.primaryKey) [] := by
  match keys, hk with
  | [key], _ =>
    have hkey : Text.IsProper key := h key List.mem_cons_self
    refine fits_tagged rfl rfl (fits_obj (Nat.zero_le _) rfl rfl ?_)
    simp [Ir.schema, Ir.singlePrimaryKey, Value.find?, hkey]
  | first :: second :: rest, _ =>
    refine fits_tagged rfl rfl (fits_obj (Nat.zero_le _) rfl rfl ?_)
    simp [Ir.schema, Ir.compositePrimaryKey, Value.find?]
    exact fits_someTexts (by simp) h

section Fields

variable {authored : List Intent.AuthoredField}

theorem Field.Sound.asPrimary {r : Field} (h : r.Sound) (f : Intent.AuthoredField) :
    (r.asPrimary f).Sound := by
  rcases asPrimary_cases f r with hr | ⟨-, hr⟩ | hr <;> rw [hr]
  · exact ⟨h.name_proper, h.type_sound, by simp, h.validations_sound⟩
  · exact ⟨h.name_proper, h.type_sound, h.default_sound, h.validations_sound⟩
  · exact ⟨h.name_proper, h.type_sound, h.default_sound, h.validations_sound⟩

theorem Field.Sound.markPrimary {r : Field} (h : r.Sound) : (markPrimary authored r).Sound := by
  unfold Resolved.markPrimary
  split
  · split
    · exact h.asPrimary _
    · exact h
  · exact h

theorem sound_markedFields {i : Intent.AddEntity} (h : ∀ f ∈ i.fields, f.Sound) :
    ∀ r ∈ markedFields i, r.Sound := by
  intro r hr
  obtain ⟨q, hq, rfl⟩ := List.mem_map.mp hr
  exact (sound_of_mem_resolveFrom h hq).markPrimary

end Fields

end Resolved
end SchemaIntents
