import SchemaIntents.Proofs.Draft.Bodies
import SchemaIntents.Proofs.Draft.Lookups
import SchemaIntents.Proofs.Draft.Reports
import SchemaIntents.Proofs.Naming
import SchemaIntents.Proofs.Resolved.Unfit

/-! New entities that are drafted without an error: all of them fits the schema of envelopes but for
what their authors ask for and it has no place for. -/
namespace SchemaIntents

open Shape

namespace Resolved

variable {i : Intent.AddEntity}

section Reports

theorem isOwn_primaryNote (authored : List Intent.AuthoredField) (fields : List Field) :
    ∀ d ∈ primaryNote authored fields, d.IsOwn := by
  unfold primaryNote
  split <;> simp +decide [Diagnostic.IsOwn]

theorem isOwn_primaryError (keys : List String) : ∀ d ∈ primaryError keys, d.IsOwn := by
  unfold primaryError
  split <;> simp +decide [Diagnostic.IsOwn]

theorem isOwn_unknownFields {known names : List String} {path : String} {what : String → String}
    (h : ∀ n, what n ≠ "") : ∀ d ∈ unknownFields known path what names, d.IsOwn := by
  intro d hd
  obtain ⟨n, -, rfl⟩ := List.mem_map.mp hd
  exact ⟨by simp +decide, by simp, h n⟩

theorem isOwn_referenceErrors (i : Intent.AddEntity) : ∀ d ∈ referenceErrors i, d.IsOwn := by
  have tenant : ∀ d ∈ tenantError (i.fields.map (·.name)) i.tenantColumn, d.IsOwn := by
    unfold tenantError
    split
    · simp
    · exact isOwn_unknownFields (by simp)
  have seed : ∀ d ∈ seedErrors (i.fields.map (·.name)) i.seed, d.IsOwn := by
    unfold seedErrors
    split
    · simp
    · simp only [List.forall_mem_flatMap]
      exact fun name _ => isOwn_unknownFields (by simp)
  simp only [referenceErrors, List.forall_mem_append, List.forall_mem_flatMap]
  exact ⟨⟨⟨fun g _ => isOwn_unknownFields (by simp), fun x _ => isOwn_unknownFields (by simp)⟩,
    tenant⟩, seed⟩

theorem isOwn_constraints (auto : Bool) (i : Intent.AddEntity) (fields : List Field) :
    ∀ d ∈ (constraints auto i fields).1, d.IsOwn := by
  intro d hd
  obtain ⟨name, -, rfl⟩ := mem_constraints_fst hd
  simp +decide [indexNote, Diagnostic.IsOwn]

end Reports

end Resolved

namespace Draft

open Resolved

variable {c : Context} {i : Intent.AddEntity} {l : Nat}

theorem isOwn_addEntity (c : Context) (i : Intent.AddEntity) :
    ∀ d ∈ (addEntity c i).diagnostics, d.IsOwn := by
  have table : ∀ d ∈ (tableOf c i).1, d.IsOwn := by
    unfold tableOf
    split <;> simp +decide [Diagnostic.IsOwn]
  simp only [diagnostics_addEntity, List.forall_mem_append]
  exact ⟨⟨⟨⟨⟨⟨isOwn_reservedWarning _ _ _, table⟩, isOwn_resolveFrom _ _ _ _ _ _⟩,
    isOwn_primaryNote _ _⟩, isOwn_primaryError _⟩, isOwn_referenceErrors _⟩,
      isOwn_constraints _ _ _⟩

section Errors

variable {codes : List String} {ds : List Diagnostic}

/-- The errors that a new entity can be reported with. -/
def entityErrors : List String :=
  ["IR020", "IR021", "IR022", "IR023"]

theorem coded_errors (h : Coded codes ds) : Coded codes (ds.filter Diagnostic.isError) :=
  fun d hd => h d (List.mem_of_mem_filter hd)

theorem coded_errors_of_any (h : ds.any Diagnostic.isError = false) :
    Coded codes (ds.filter Diagnostic.isError) := by
  have hnone : ds.filter Diagnostic.isError = [] := by simpa using h
  rw [hnone]
  exact coded_nil

/-- The errors about fields: a name that occurs again, or a type that there is not. -/
theorem coded_errors_resolveFrom (checks : FieldChecks) (owner root : String) (seen : List String)
    (position : Nat) (fs : List Intent.AuthoredField) :
    Coded entityErrors ((resolveFrom checks owner root seen position fs).1.filter
      Diagnostic.isError) := by
  intro d hd
  obtain ⟨hd, herror⟩ := List.mem_filter.mp hd
  cases fieldReport_of_mem_resolveFrom hd with
  | reserved => simp [Diagnostic.isError] at herror
  | repeated | untyped => simp [duplicateError, typeError, entityErrors]

theorem isError_of_mem_referenceErrors {d : Diagnostic} (h : d ∈ referenceErrors i) :
    d.isError = true := by
  have unknown {known : List String} {path : String} {what : String → String} {names : List String}
      (h : d ∈ unknownFields known path what names) : d.isError = true := by
    obtain ⟨name, -, rfl⟩ := List.mem_map.mp h
    rfl
  simp only [referenceErrors, List.mem_append, List.mem_flatMap] at h
  rcases h with ((⟨_, -, h⟩ | ⟨_, -, h⟩) | h) | h
  · exact unknown h
  · exact unknown h
  · unfold tenantError at h
    split at h
    · simp at h
    · exact unknown h
  · unfold seedErrors at h
    split at h
    · simp at h
    · obtain ⟨name, -, h⟩ := List.mem_flatMap.mp h
      exact unknown h

theorem any_tableOf (c : Context) (i : Intent.AddEntity) :
    (tableOf c i).1.any Diagnostic.isError = false := by
  unfold tableOf
  split <;> simp [Diagnostic.isError]

theorem any_primaryNote (authored : List Intent.AuthoredField) (fields : List Resolved.Field) :
    (primaryNote authored fields).any Diagnostic.isError = false := by
  unfold primaryNote
  split <;> simp [Diagnostic.isError]

theorem any_constraints (auto : Bool) (i : Intent.AddEntity) (fields : List Resolved.Field) :
    (constraints auto i fields).1.any Diagnostic.isError = false := by
  rw [List.any_eq_false]
  intro d hd
  obtain ⟨name, -, rfl⟩ := mem_constraints_fst hd
  simp [indexNote, Diagnostic.isError]

/-- Whatever is an error about a new entity is one of four. -/
theorem coded_errors_addEntity (c : Context) (i : Intent.AddEntity) :
    Coded entityErrors ((addEntity c i).diagnostics.filter Diagnostic.isError) := by
  simp only [diagnostics_addEntity, List.filter_append, coded_append]
  exact ⟨⟨⟨⟨⟨⟨coded_errors_of_any (any_reservedWarning _ _ _),
    coded_errors_of_any (any_tableOf _ _)⟩,
    coded_errors_resolveFrom _ _ _ _ _ _⟩, coded_errors_of_any (any_primaryNote _ _)⟩,
    coded_errors ((coded_primaryError _).mono (by decide))⟩,
    coded_errors ((coded_referenceErrors _).mono (by decide))⟩,
    coded_errors_of_any (any_constraints _ _ _)⟩

end Errors

section Remarks

variable {d : Diagnostic}

theorem isTorn_of_mem_reservedWarning {label name path : String}
    (hlabel : Text.isTorn label = false)
    (hname : Text.isTorn name = false) (hd : d ∈ reservedWarning label name path) :
    Text.isTorn d.message = false := by
  have constant : Text.isTorn " '" = false ∧ Text.isTorn "' is a reserved SQL keyword" =
    false := by decide
  unfold reservedWarning at hd
  split at hd
  · obtain rfl := List.mem_singleton.mp hd
    simp [hlabel, hname, constant]
  · cases hd

/-- What is reported of fields that have names and is no error can be told. -/
theorem isTorn_of_mem_resolveFields {checks : FieldChecks} {owner root : String}
    {fs : List Intent.AuthoredField} (hfs : ∀ f ∈ fs, f.Sound)
    (hd : d ∈ (resolveFields checks owner root fs).1) (herr : d.isError = false) :
    Text.isTorn d.message = false := by
  obtain ⟨f, hf, path, hwarned⟩ := exists_reserved_of_mem_resolveFrom hd herr
  obtain ⟨⟨hchecks, -⟩, -⟩ := mem_nameWarning.mp hwarned
  rw [nameWarning, if_pos hchecks] at hwarned
  exact isTorn_of_mem_reservedWarning (by decide) (hfs f hf).name_proper.whole hwarned

/-- What is reported of a new entity and is no error can be told. -/
theorem isTorn_of_mem_addEntity (hi : i.Sound) (hd : d ∈ (addEntity c i).diagnostics)
    (herr : d.isError = false) : Text.isTorn d.message = false := by
  have hsound := sound_markedFields hi.fields_sound
  simp only [diagnostics_addEntity, List.mem_append] at hd
  rcases hd with ((((((hd | hd) | hd) | hd) | hd) | hd) | hd)
  · exact isTorn_of_mem_reservedWarning (by decide) hi.entity_proper.whole hd
  · have constant : Text.isTorn "Inferred table name '" = false ∧
      Text.isTorn "'" = false := by decide
    unfold tableOf at hd
    split at hd
    · cases hd
    · obtain rfl := List.mem_singleton.mp hd
      simp [(Naming.table_proper c.options.tables hi.entity_proper.whole).whole, constant]
  · exact isTorn_of_mem_resolveFields hi.fields_sound hd herr
  · have constant : Text.isTorn "Inferred primary key '" = false ∧
      Text.isTorn "'" = false := by decide
    unfold primaryNote at hd
    split at hd
    · cases hd
    · rename_i r hr
      obtain rfl := List.mem_singleton.mp hd
      simp [(hsound r (List.mem_of_find?_eq_some hr)).name_proper.whole, constant]
  · unfold primaryError at hd
    split at hd
    · obtain rfl := List.mem_singleton.mp hd
      cases herr
    · cases hd
  · simp [isError_of_mem_referenceErrors hd] at herr
  · have constant : Text.isTorn "Auto-added index for foreign key '" = false ∧
      Text.isTorn "'" = false := by
      decide
    obtain ⟨n, hn, rfl⟩ := mem_constraints_fst hd
    obtain ⟨r, hr, rfl⟩ := List.mem_map.mp hn
    simp [indexNote, (hsound r (List.mem_of_mem_filter hr)).name_proper.whole, constant]

end Remarks

section Fitting

/-- The table of a new entity has a name, given or made. -/
theorem tableOf_ne (c : Context) (h : ∀ t, i.tableName = some t → t ≠ "") :
    (tableOf c i).2 ≠ "" := by
  unfold tableOf
  cases ht : i.tableName with
  | none => exact Naming.table_ne c.options.tables i.entity
  | some t => exact h t ht

/-- Only a given name of a table has halves of pairs. -/
theorem isTorn_tableOf (c : Context) (h : Text.IsProper i.entity) :
    Text.isTorn (tableOf c i).2 = false ↔ ∀ t, i.tableName = some t → Text.isTorn t = false := by
  unfold tableOf
  cases ht : i.tableName with
  | none => simpa using (Naming.table_proper c.options.tables h.1).1
  | some t => simp

/-- A storage finds what the name of its table does. -/
theorem finds_storage (table : String) {keys : List String} (hk : keys ≠ [])
    (hkeys : ∀ key ∈ keys, Text.IsProper key)
    (htenant : ∀ t, i.tenantColumn = some t → Text.IsProper t) :
    Finds ((storage i table keys).checker Ir.schema l (.model .storage))
      ((someTextIssues table).map (·.under (.key "tableName"))) := by
  have hfields : ((Ir.schema .storage).fields.flatMap fun f =>
      (if f.wire = "tableName" then someTextIssues table else []).map (·.under (.key f.wire))) =
      (someTextIssues table).map (·.under (.key "tableName")) := by
    simp [Ir.schema, Ir.storage]
  rw [← hfields]
  refine finds_present (Nat.zero_le _) rfl rfl ?_
  simp [Ir.schema, Ir.storage, finds_someText, fits_primaryKey hk hkeys]
  refine fun t hcolumn => fits_obj (Nat.zero_le _) rfl rfl ?_
  simp [Ir.schema, Ir.tenantScope, Value.find?, htenant t hcolumn]

/-- A storage fits if the name of its table has no halves of pairs. -/
theorem decides_storage {table : String} {keys : List String} (ht : table ≠ "") (hk : keys ≠ [])
    (hkeys : ∀ key ∈ keys, Text.IsProper key)
    (htenant : ∀ t, i.tenantColumn = some t → Text.IsProper t) :
    Decides ((storage i table keys).checker Ir.schema l (.model .storage))
      (Text.isTorn table = false) := by
  refine ⟨_, finds_storage table hk hkeys htenant, ?_⟩
  simp [someTextIssues, Text.isProper_iff, ht]

/-- The names of the fields that are the key of a new entity. -/
def keyNames (i : Intent.AddEntity) : List String :=
  ((markedFields i).filter (·.primary)).map (·.name)

/-- The fields of a new entity can stand in an envelope, and so can its key and all that its
constraints and its tenants name. -/
structure IsNamed (c : Context) (i : Intent.AddEntity) : Prop where
  fields_some : 1 ≤ (markedFields i).length
  fields_sound : ∀ r ∈ markedFields i, r.Sound
  keys_some : keyNames i ≠ []
  keys_proper : ∀ key ∈ keyNames i, Text.IsProper key
  constraints_proper :
    ∀ k ∈ (constraints c.options.autoIndex i (markedFields i)).2, ∀ t ∈ k.fields, Text.IsProper t
  tenant_proper : ∀ t, i.tenantColumn = some t → Text.IsProper t

theorem isNamed_of_any (hi : i.Sound)
    (herr : (addEntity c i).diagnostics.any Diagnostic.isError = false) : IsNamed c i := by
  obtain ⟨hfields, hkey, hreferences⟩ := of_any_addEntity herr
  obtain ⟨hnames, -, -⟩ := markedFields_of_any hfields
  have hsound := sound_markedFields hi.fields_sound
  have proper : ∀ n ∈ i.fields.map (·.name), Text.IsProper n := by
    simp only [List.forall_mem_map]
    exact fun f hf => (hi.fields_sound f hf).name_proper
  refine ⟨?_, hsound, fun hnone => ?_, fun key hk => ?_, fun k hk t ht => ?_, fun t ht => ?_⟩
  · have hlen := congrArg List.length hnames
    rw [List.length_map, List.length_map] at hlen
    exact hlen ▸ hi.fields_some
  · rw [← keyNames, hnone] at hkey
    simp [primaryError, Diagnostic.isError] at hkey
  · obtain ⟨r, hr, rfl⟩ := List.mem_map.mp hk
    exact (hsound r (List.mem_of_mem_filter hr)).name_proper
  · have hknown : ∀ r ∈ markedFields i, r.name ∈ i.fields.map (·.name) :=
      fun r hr => hnames ▸ List.mem_map_of_mem hr
    exact proper t (mem_constraints hreferences hknown hk t ht)
  · obtain ⟨-, -, htenant, -⟩ := referenceErrors_any hreferences
    exact proper t (htenant t ht)

/-- The fields of a new entity have the types that its author gave them. -/
theorem forall_isWhole_markedFields
    (herr : (addEntity c i).diagnostics.any Diagnostic.isError = false) :
    (∀ r ∈ markedFields i, r.type.IsWhole) ↔ ¬ HasTornType i.entity i.fields := by
  rw [← forall_isWhole_iff (of_any_addEntity herr).1, markedFields]
  simp only [List.forall_mem_map, type_markPrimary]

/-- An entity that is drafted without an error fits just when it is not unfit. -/
theorem decides_entity (hc : c.IsValid) (hi : i.Sound)
    (herr : (addEntity c i).diagnostics.any Diagnostic.isError = false) :
    Decides ((entity c i (tableOf c i).2 (markedFields i)
      (constraints c.options.autoIndex i (markedFields i)).2).checker Ir.schema levelLimit
        (.model .entity)) (¬ i.Unfit) := by
  have hn := isNamed_of_any hi herr
  have hstorage : Decides ((storage i (tableOf c i).2 (((markedFields i).filter (·.primary)).map
      (·.name))).checker Ir.schema levelLimit (.model .storage)) _ :=
    (decides_storage (tableOf_ne c hi.tableName_ne) hn.keys_some hn.keys_proper
      hn.tenant_proper).congr (isTorn_tableOf c hi.entity_proper)
  have hfields : Decides ((Value.list ((markedFields i).map Resolved.Field.toValue)).checker
      Ir.schema levelLimit (.list 1 (.model .field))) _ :=
    (decides_fields hn.fields_some hn.fields_sound (by decide)).congr
      (forall_isWhole_markedFields herr)
  have hconstraints := decides_constraints (l := levelLimit) hn.constraints_proper
  rw [forall_constraints_iff hi.index_some] at hconstraints
  have hseed : DecidesAt Ir.schema levelLimit (.optional (.model .seed)) i.seed.isNone
      (i.seed.map seedValue) (∀ s, i.seed = some s → ¬ s.Unfit) :=
    decidesAt_map (by simp) fun s hs =>
      ⟨by simp [seedValue, Value.ofPresent], decides_seed (hi.mode_mem s hs)⟩
  refine (decides_present (p := fun key =>
      (key = "storage" → ∀ t, i.tableName = some t → Text.isTorn t = false) ∧
      (key = "fields" → ¬ HasTornType i.entity i.fields) ∧ (key = "constraints" → [] ∉ i.unique) ∧
      (key = "seed" → ∀ s, i.seed = some s → ¬ s.Unfit)) (Nat.zero_le _) rfl rfl ?_).congr ?_
  · simp [Ir.schema, Ir.entity, hi.entity_proper, hc.intentId_proper]
    exact ⟨fun _ => fits_texts (Nat.zero_le _), hstorage, hfields, hconstraints, hseed,
      fits_list (Nat.zero_le _) (by simp)⟩
  · rw [Intent.AddEntity.not_unfit_iff]
    simp [Ir.schema, Ir.entity]

end Fitting

end Draft
end SchemaIntents
