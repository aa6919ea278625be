import SchemaIntents.Proofs.Draft.Unfit
import SchemaIntents.Proofs.Resolution.Misfits
import SchemaIntents.Proofs.Resolution.Misuse

/-! New entities that come to no envelope although nothing is wrong with their fields: something in
them is unfit, or cannot be told. -/
namespace SchemaIntents

open Draft (addEntity entityErrors)
open Intent (Kind)
open Resolved (HasUntoldField)
open Shape

variable {c : Context} {now : DateTime} {i : Intent.AddEntity}

namespace Draft

/-- The envelope of a new entity that is drafted without an error fits just when it is not unfit. -/
theorem decides_addEntity (hc : c.IsValid) (ht : now.IsValid) (hi : i.Sound)
    (herr : (addEntity c i).diagnostics.any Diagnostic.isError = false)
    (hwhole : ∀ d ∈ (addEntity c i).diagnostics, Text.isTorn d.message = false) :
    Decides (((addEntity c i).payload c now).checker Ir.schema levelLimit (.model .addEntity))
      (¬ i.Unfit) := by
  exact decides_payload (k := .addEntity) rfl rfl hc ht (isOwn_addEntity c i) hwhole rfl rfl
    (decides_entity hc hi herr)

/-- A field of a new entity that is resolved has a type that cannot be told, or something else that
is reported about the entity has halves of pairs. -/
def IsUntold (c : Context) (i : Intent.AddEntity) : Prop :=
  (∃ m, HasUntoldField ⟨true, true⟩ i.entity [] i.fields m) ∨
    ∃ d ∈ (addEntity c i).diagnostics, Text.isTorn d.message = true

theorem exists_unusable_addEntity {p : Intent.Part} :
    (∃ m, Unusable c .addEntity p m) ↔ IsUntold c (.ofPart p) := by
  constructor
  · rintro ⟨m, h⟩
    cases h with
    | field hl hfield =>
      simp only [fieldLists, List.mem_singleton, Prod.mk.injEq] at hl
      obtain ⟨rfl, rfl, rfl⟩ := hl
      exact .inl ⟨m, hfield⟩
    | report hd hx htorn =>
      obtain rfl := Except.ok.inj hd
      exact .inr ⟨_, hx, htorn⟩
  · rintro (⟨m, hfield⟩ | ⟨d, hd, htorn⟩)
    · exact ⟨m, .field (List.mem_singleton.mpr rfl) hfield⟩
    · exact ⟨.torn, .report rfl hd htorn⟩

theorem misuse?_addEntity_eq_none {p : Intent.Part} (h : ¬ IsUntold c (.ofPart p)) :
    (addEntity c (.ofPart p)).misuse? = none := by
  cases hm : (addEntity c (.ofPart p)).misuse? with
  | none => rfl
  | some m =>
    exact absurd (exists_unusable_addEntity.mp ⟨m, unusable_of_misuse (k := .addEntity) rfl hm⟩) h

end Draft

namespace Resolution

/-- An entity that is drafted with an error is reported with one of four codes. -/
theorem exists_mem_reports {d : Draft}
    (hd : Coded entityErrors (d.diagnostics.filter Diagnostic.isError))
    (herr : d.diagnostics.any Diagnostic.isError = true) :
    ∃ x ∈ reports ((d.settle c now).mapError Refusal.rejected), x.code ∈ entityErrors := by
  obtain ⟨x, hx, hisError⟩ := List.any_eq_true.mp herr
  refine ⟨x, ?_, hd x (List.mem_filter.mpr ⟨hx, hisError⟩)⟩
  rw [Draft.settle, if_pos herr]
  exact hx

/-- A draft without errors is rejected for its envelope just where the envelope does not fit. -/
theorem settle_of_decides {d : Draft} {p : Prop}
    (herr : d.diagnostics.any Diagnostic.isError = false)
    (h : Decides ((d.payload c now).checker Ir.schema levelLimit (.model d.model)) p) :
    (p ∧ ∃ ir, d.settle c now = .ok ir) ∨
      ¬ p ∧ ∃ r, d.settle c now = .error r ∧ ∃ x ∈ r.diagnostics, x.code = "IR099" := by
  obtain ⟨issues, hfound, hp⟩ := h
  rcases Draft.settle_of_finds herr hfound with ⟨hnil, hok⟩ | ⟨hne, hrejected⟩
  · exact .inl ⟨hp.mp hnil, hok⟩
  · refine .inr ⟨fun h => hne (hp.mpr h), _, hrejected, ?_⟩
    obtain ⟨issue, hissue⟩ := List.exists_mem_of_ne_nil issues hne
    exact ⟨_, List.mem_append_right _ (List.mem_map_of_mem hissue), rfl⟩

section AddEntity

variable {v : Value} {p : Intent.Part}

/-- A new entity comes to nothing just when something about it cannot be told. -/
theorem exists_misused_addEntity (hp : Intent.parse Kind.addEntity.model v = .ok p) :
    (∃ m, (ofKind .addEntity c now (.plain v)).result = .error (.misused m)) ↔
      Draft.IsUntold c (.ofPart p) := by
  have hread : Intent.Submission.read Kind.addEntity.model (.plain v) = .ok p := hp
  rw [exists_misused_iff, ← Draft.exists_unusable_addEntity]
  constructor
  · rintro ⟨q, m, hq, hu⟩
    obtain rfl := Except.ok.inj (hread.symm.trans hq)
    exact ⟨m, hu⟩
  · rintro ⟨m, hu⟩
    exact ⟨p, m, hread, hu⟩

/-- What a new entity comes to where nothing is reported about its fields, its key and its
references: an envelope, or the report that it does not fit, or neither if something about it cannot
be told. -/
theorem addEntity_cases (hc : c.IsValid) (ht : now.IsValid)
    (hp : Intent.parse Kind.addEntity.model v = .ok p)
    (hnone : ∀ d ∈ reports (ofKind .addEntity c now (.plain v)).result, d.code ∉ entityErrors) :
    let i := Intent.AddEntity.ofPart p
    let result := (ofKind .addEntity c now (.plain v)).result
    let isUntold := Draft.IsUntold c i
    (isUntold ∧ ∃ m, result = .error (.misused m)) ∨
      (¬ isUntold ∧ ¬ i.Unfit ∧ ∃ ir, result = .ok ir) ∨
      ¬ isUntold ∧ i.Unfit ∧ ∃ r, result = .error (.rejected r) ∧ ∃ d ∈ r.diagnostics,
        d.code = "IR099" := by
  intro i result isUntold
  have hread : Intent.Submission.read Kind.addEntity.model (.plain v) = .ok p := hp
  by_cases huntold : isUntold
  · exact .inl ⟨huntold, (exists_misused_addEntity hp).mpr huntold⟩
  have hmisuse := Draft.misuse?_addEntity_eq_none huntold
  have hresult : result = ((addEntity c i).settle c now).mapError Refusal.rejected :=
    ofKind_of_ofPart hread rfl hmisuse
  have herr : (addEntity c i).diagnostics.any Diagnostic.isError = false := by
    by_contra herror
    have hcoded : ∃ d ∈ reports result, d.code ∈ entityErrors := by
      rw [hresult]
      exact exists_mem_reports (Draft.coded_errors_addEntity c i) (by simpa using herror)
    obtain ⟨d, hd, hcode⟩ := hcoded
    exact hnone d hd hcode
  have hi : i.Sound := (Intent.accepted_of_parse hp).addEntity
  have hwhole := (Draft.misuse?_eq_none.mp hmisuse).2
  rcases settle_of_decides herr (Draft.decides_addEntity hc ht hi herr hwhole) with
    ⟨hfit, ir, hir⟩ | ⟨hunfit, r, hr, hreported⟩
  · exact .inr (.inl ⟨huntold, hfit, ir, by rw [hresult, hir]; rfl⟩)
  · exact .inr (.inr ⟨huntold, not_not.mp hunfit, r, by rw [hresult, hr]; rfl, hreported⟩)

/-- A new entity about whose fields, key and references nothing is reported comes to an envelope,
unless something in it is unfit: then the envelope is said not to fit. And unless a type of its
fields or a report about it cannot be told: then it comes to neither. A table that is named after an
entity has a name. -/
theorem refused_iff_unfit (hc : c.IsValid) (ht : now.IsValid)
    (hp : Intent.parse Kind.addEntity.model v = .ok p)
    (hnone : ∀ d ∈ reports (ofKind .addEntity c now (.plain v)).result,
      d.code ∉ ["IR020", "IR021", "IR022", "IR023"]) :
    let i := Intent.AddEntity.ofPart p
    let result := (ofKind .addEntity c now (.plain v)).result
    let isUntold := (∃ m, HasUntoldField ⟨true, true⟩ i.entity [] i.fields m) ∨
      ∃ d ∈ (addEntity c i).diagnostics, Text.isTorn d.message = true
    ((∃ m, result = .error (.misused m)) ↔ isUntold) ∧
      ((∃ r, result = .error (.rejected r) ∧ ∃ d ∈ r.diagnostics, d.code = "IR099") ↔
        ¬ isUntold ∧ i.Unfit) ∧
      ((∃ ir, result = .ok ir) ↔ ¬ isUntold ∧ ¬ i.Unfit) ∧
      ∀ convention entity, Naming.table convention entity ≠ "" := by
  intro i result isUntold
  rcases addEntity_cases hc ht hp hnone with
    ⟨huntold, m, hresult⟩ | ⟨huntold, hfit, ir, hresult⟩ | ⟨huntold, hunfit, r, hresult, hreported⟩
  · have huntold : isUntold := huntold
    simp only [result, hresult, huntold]
    simpa using Naming.table_ne
  · have huntold : ¬ isUntold := huntold
    simp only [result, hresult, huntold, i, hfit]
    simpa using Naming.table_ne
  · have huntold : ¬ isUntold := huntold
    simp only [result, hresult, huntold, i, hunfit]
    simpa using ⟨hreported, Naming.table_ne⟩

/-- An entity that has a group of no fields to be unique. -/
def ungrouped : Value := .obj [
  ("kind", .str "add_entity"), ("scope", .str "data"), ("entity", .str "User"),
  ("fields", .list [.obj [("name", .str "id"), ("type", .str "uuid")]]),
  ("unique", .list [.list []])]

/-- An entity with a reference whose action on deletion is too long a number to be shown. -/
def unshown : Value := .obj [
  ("kind", .str "add_entity"), ("scope", .str "data"), ("entity", .str "Post"),
  ("fields", .list [
    .obj [("name", .str "id"), ("type", .str "uuid")],
    .obj [("name", .str "author"), ("type", .str "reference"), ("relation", .obj [
      ("target_entity", .str "User"), ("kind", .str "many_to_one"),
      ("foreign_key", .obj [("local_field", .str "author"), ("target_field", .str "id")]),
      ("attributes", .list [.obj [("name", .str "on_delete"),
        ("args", .obj [("action", .int (.ofNat (Nat.pow 10 longestNumber)))])]])])]])]

theorem refused_iff_unfit_unshown :
    let c : Context := ⟨"intent", "project", "0.1.0", none, none, ⟨true, .snake⟩⟩
    let now : DateTime := ⟨⟨2024, 1, 2⟩, 12, 0, 0, 0, none⟩
    (∃ r, (ofKind .addEntity c now (.plain ungrouped)).result = .error (.rejected r) ∧
      ∃ d ∈ r.diagnostics, d.code = "IR099") ∧
    reports (ofKind .addEntity c now (.plain unshown)).result = [] ∧
    (ofKind .addEntity c now (.plain unshown)).result = .error (.misused .tooManyDigits) := by
  intro c now
  have hc : c.IsValid := by decide
  have ht : now.IsValid := by decide
  have hgroup : (Intent.parse Kind.addEntity.model ungrouped).toOption.map (fun p =>
      ((Intent.AddEntity.ofPart p).unique, (addEntity c (.ofPart p)).misuse?)) =
        some ([[]], none) := by
    decide +kernel
  have hreported : ∀ d ∈ reports (ofKind .addEntity c now (.plain ungrouped)).result,
      d.code ∉ ["IR020", "IR021", "IR022", "IR023"] := by decide +kernel
  have haction : (Intent.parse Kind.addEntity.model unshown).toOption.map (fun p =>
      Resolved.fieldsMisuse? ⟨true, true⟩ (Intent.AddEntity.ofPart p).entity
        (Intent.AddEntity.ofPart p).fields) = some (some .tooManyDigits) := by decide +kernel
  obtain ⟨p, hp, hunfit⟩ := Option.map_eq_some_iff.mp hgroup
  obtain ⟨q, hq, hmisuse⟩ := Option.map_eq_some_iff.mp haction
  have hp := eq_ok_of_toOption hp
  have hq := eq_ok_of_toOption hq
  obtain ⟨hunique, hshown⟩ := Prod.mk.inj hunfit
  obtain ⟨-, hrefused, -, -⟩ := refused_iff_unfit hc ht hp hreported
  have hmisused : (ofKind .addEntity c now (.plain unshown)).result =
      .error (.misused .tooManyDigits) := by
    refine ofKind_of_misuse (d := addEntity c (.ofPart q)) hq rfl ?_
    rw [Draft.misuse?, show (addEntity c (.ofPart q)).misuse = some .tooManyDigits from hmisuse]
    rfl
  refine ⟨hrefused.mpr ⟨?_, .group (by simp [hunique])⟩, by rw [hmisused]; rfl, hmisused⟩
  intro h
  obtain ⟨m', hu⟩ := Draft.exists_unusable_addEntity.mpr h
  exact Draft.not_unusable (k := .addEntity) rfl hshown hu

end AddEntity

end Resolution
end SchemaIntents
