import SchemaIntents.Proofs.Draft.Codes
import SchemaIntents.Proofs.Resolution.Acceptance
import SchemaIntents.Proofs.Resolved.Entity

/-! What drafts take from the known entities: nothing but what is reported of the entities that
their intents look up, and that stands before everything else. -/
namespace SchemaIntents

open Intent (Kind)

@[simp] theorem Diagnostic.firstMisuse?_nil : firstMisuse? [] = none := rfl

namespace Draft

open Resolved

/-- The entities that an intent looks up, or makes, or removes. -/
def entityNames (k : Kind) (p : Intent.Part) : List String :=
  match k with
  | .addEntity => [(Intent.AddEntity.ofPart p).entity]
  | .addField => [(Intent.AddField.ofPart p).entity]
  | .addRelation =>
    [(Intent.AddRelation.ofPart p).sourceEntity,
      (Intent.AddRelation.ofPart p).relation.targetEntity]
  | .removeEntity => [(Intent.RemoveEntity.ofPart p).entity]
  | .removeField => [(Intent.RemoveField.ofPart p).entity]
  | .renameEntity => [(Intent.RenameEntity.ofPart p).oldName,
      (Intent.RenameEntity.ofPart p).newName]
  | .renameField => [(Intent.RenameField.ofPart p).entity]
  | .addEndpoint => (Intent.AddEndpoint.ofPart p).entity.toList
  | .updateEndpoint => []
  | .addCapability => (Intent.AddCapability.ofPart p).entity.toList
  | .addComponent => (Intent.AddComponent.ofPart p).entity.toList

/-- What is reported of the entities that an intent looks up. -/
def lookUps (k : Kind) (c : Context) (p : Intent.Part) : List Diagnostic :=
  match k with
  | .addEntity => []
  | .addField => lookUp c .error "Entity" (Intent.AddField.ofPart p).entity "$.entity"
  | .addRelation =>
    lookUp c .error "Source entity" (Intent.AddRelation.ofPart p).sourceEntity
      "$.relation.source_entity" ++
    lookUp c .error "Target entity" (Intent.AddRelation.ofPart p).relation.targetEntity
      "$.relation.target_entity"
  | .removeEntity => lookUp c .error "Entity" (Intent.RemoveEntity.ofPart p).entity "$.entity"
  | .removeField => lookUp c .error "Entity" (Intent.RemoveField.ofPart p).entity "$.entity"
  | .renameEntity =>
    lookUp c .error "Entity" (Intent.RenameEntity.ofPart p).oldName "$.from" ++
      takenError c (Intent.RenameEntity.ofPart p).newName
  | .renameField => lookUp c .error "Entity" (Intent.RenameField.ofPart p).entity "$.entity"
  | .addEndpoint => mention c (Intent.AddEndpoint.ofPart p).entity
  | .updateEndpoint => []
  | .addCapability => mention c (Intent.AddCapability.ofPart p).entity
  | .addComponent => mention c (Intent.AddComponent.ofPart p).entity

/-- A draft that reports some more before all else. -/
def reporting (ds : List Diagnostic) (d : Draft) : Draft :=
  { d with diagnostics := ds ++ d.diagnostics }

variable {k : Kind} {c : Context} {p : Intent.Part} {known known' : Option (List String)}

@[simp] theorem lookUp_untracked (severity : Severity) (label name path : String) :
    lookUp (c.withKnown none) severity label name path = [] := rfl

@[simp] theorem takenError_untracked (name : String) :
    takenError (c.withKnown none) name = [] := rfl

@[simp] theorem mention_untracked (entity : Option String) :
    mention (c.withKnown none) entity = [] := by
  cases entity <;> rfl

/-- A draft is the one that is made where every entity may exist, with what is reported of those
that are looked up, as long as that can be told. -/
theorem ofPart_eq (hwhole : Diagnostic.firstMisuse? (lookUps k c p) = none) :
    ofPart k c p = (ofPart k (c.withKnown none) p).map (reporting (lookUps k c p)) := by
  cases k with
  | addEntity =>
    have same : addEntity (c.withKnown none) (.ofPart p) = addEntity c (.ofPart p) := rfl
    simp only [ofPart, Except.map, reporting, lookUps, same, List.nil_append]
  | updateEndpoint => simp only [ofPart, Except.map, reporting, lookUps, List.nil_append]
  | addField | addRelation | removeEntity | removeField | renameEntity | renameField =>
    simp only [ofPart, Except.map, reporting, lookUps, addField, addRelation,
      removeEntity, removeField,
      renameEntity, renameField, lookUp_untracked, takenError_untracked, List.nil_append,
      List.append_assoc]
  | addEndpoint =>
    simp only [lookUps] at hwhole
    simp only [ofPart, Except.map, reporting, lookUps, addEndpoint, mention_untracked, hwhole,
      Diagnostic.firstMisuse?_nil, List.nil_append, List.append_assoc]
  | addCapability =>
    simp only [lookUps] at hwhole
    simp only [ofPart, addCapability, mention_untracked, hwhole, Diagnostic.firstMisuse?_nil, bind,
      Except.bind]
    cases Resolved.Overlay.ofCapability? (.ofPart p) with
    | error m => rfl
    | ok overlay =>
      simp only [pure, Except.pure, Except.map, reporting, lookUps, List.nil_append,
        List.append_assoc]
  | addComponent =>
    simp only [ofPart, Except.map, reporting, lookUps, addComponent, mention_untracked,
      List.append_nil]

/-- What is reported of the entities that are looked up stands before everything else. -/
theorem exists_diagnostics_eq {d : Draft} (h : ofPart k c p = .ok d) :
    ∃ own, d.diagnostics = lookUps k c p ++ own := by
  cases k with
  | addCapability =>
    simp only [ofPart, addCapability] at h
    split at h
    · exact absurd h throw_ne_ok
    · obtain ⟨overlay, -, h⟩ := bind_eq_ok h
      obtain rfl := Except.ok.inj h
      exact ⟨_, List.append_assoc _ _ _⟩
  | addComponent =>
    obtain rfl := Except.ok.inj h
    exact ⟨[], (List.append_nil _).symm⟩
  | addField | removeField =>
    obtain rfl := Except.ok.inj h
    exact ⟨_, rfl⟩
  | addRelation =>
    obtain rfl := Except.ok.inj h
    exact ⟨_, rfl⟩
  | _ =>
    obtain rfl := Except.ok.inj h
    simp [lookUps, removeEntity, renameEntity, renameField, addEndpoint]

/-- Looking up an entity takes no more from the known ones than whether it is one of them. -/
theorem lookUp_congr {name : String}
    (h : known.map (·.contains name) = known'.map (·.contains name))
    (severity : Severity) (label path : String) :
    lookUp (c.withKnown known) severity label name path =
      lookUp (c.withKnown known') severity label name path := by
  have hmay : (c.withKnown known).mayExist name = (c.withKnown known').mayExist name := by
    cases known <;> cases known' <;> simp_all [Context.mayExist, Context.withKnown]
  rw [lookUp, lookUp, hmay]

theorem takenError_congr {name : String}
    (h : known.map (·.contains name) = known'.map (·.contains name)) :
    takenError (c.withKnown known) name = takenError (c.withKnown known') name := by
  cases known <;> cases known' <;> simp_all [takenError, Context.withKnown]

theorem mention_congr {entity : Option String}
    (h : ∀ n ∈ entity.toList, known.map (·.contains n) = known'.map (·.contains n)) :
    mention (c.withKnown known) entity = mention (c.withKnown known') entity := by
  cases entity with
  | none => rfl
  | some name => exact lookUp_congr (h name (by simp)) _ _ _

/-- A draft is the same whatever else is known but the entities that its intent looks up. -/
theorem ofPart_congr (h : ∀ n ∈ entityNames k p,
      known.map (·.contains n) = known'.map (·.contains n)) :
    ofPart k (c.withKnown known) p = ofPart k (c.withKnown known') p := by
  have hlookUps : lookUps k (c.withKnown known) p = lookUps k (c.withKnown known') p := by
    cases k with
    | addEntity | updateEndpoint => rfl
    | addField | removeEntity | removeField | renameField =>
      exact lookUp_congr (h _ List.mem_cons_self) _ _ _
    | addRelation =>
      rw [lookUps, lookUps, lookUp_congr (h _ List.mem_cons_self),
        lookUp_congr (h _ (List.mem_cons_of_mem _ List.mem_cons_self))]
    | renameEntity =>
      rw [lookUps, lookUps, lookUp_congr (h _ List.mem_cons_self),
        takenError_congr (h _ (List.mem_cons_of_mem _ List.mem_cons_self))]
    | addEndpoint | addCapability | addComponent => exact mention_congr h
  cases k with
  | addEntity | updateEndpoint => rfl
  | _ =>
    simp only [lookUps] at hlookUps
    simp only [ofPart, addField, addRelation, removeEntity, removeField, renameEntity, renameField,
      addEndpoint, addCapability, addComponent, hlookUps]

/-- The codes of all that is reported apart from the entities that are looked up. -/
def ownCodes : List String :=
  ["IR001", "IR002", "IR003", "IR011", "IR020", "IR021", "IR022", "IR023", "IR040",
    "IR041", "IR050", "IR051"] ++ Resolved.Overlay.codes

theorem coded_repeatedWarning (names : List String) : Coded ["IR040"] (repeatedWarning names) := by
  unfold repeatedWarning
  split <;> simp

theorem coded_tableOf (i : Intent.AddEntity) : Coded ["IR002"] (tableOf c i).1 := by
  unfold tableOf
  split <;> simp

/-- What is reported about a new entity, in its order. -/
theorem diagnostics_addEntity (c : Context) (i : Intent.AddEntity) :
    (addEntity c i).diagnostics = reservedWarning "Entity name" i.entity "$.entity" ++
      (tableOf c i).1 ++ (resolveFields ⟨true, true⟩ i.entity "$.fields" i.fields).1 ++
      primaryNote i.fields (markedFields i) ++
      primaryError (((markedFields i).filter (·.primary)).map (·.name)) ++ referenceErrors i ++
      (constraints c.options.autoIndex i (markedFields i)).1 := rfl

/-- A new entity without an error has none about its fields, its key and what it refers to. -/
theorem of_any_addEntity {i : Intent.AddEntity}
    (h : (addEntity c i).diagnostics.any Diagnostic.isError = false) :
    (resolveFields ⟨true, true⟩ i.entity "$.fields" i.fields).1.any Diagnostic.isError = false ∧
      (primaryError (((markedFields i).filter (·.primary)).map (·.name))).any Diagnostic.isError =
        false ∧
      (referenceErrors i).any Diagnostic.isError = false := by
  simp only [diagnostics_addEntity, List.any_append, Bool.or_eq_false_iff] at h
  obtain ⟨⟨⟨⟨⟨-, hfields⟩, -⟩, hkey⟩, hreferences⟩, -⟩ := h
  exact ⟨hfields, hkey, hreferences⟩

/-- Where every entity may exist, nothing is reported with the codes of entities that are looked
up. -/
theorem coded_ofPart {d : Draft} (h : ofPart k (c.withKnown none) p = .ok d) :
    Coded ownCodes d.diagnostics := by
  cases k with
  | addEntity =>
    obtain rfl := Except.ok.inj h
    simp only [diagnostics_addEntity, coded_append]
    exact ⟨⟨⟨⟨⟨⟨(coded_reservedWarning _ _ _).mono (by decide), (coded_tableOf _).mono (by decide)⟩,
      (coded_resolveFrom _ _ _ _ _ _).mono (by decide)⟩, (coded_primaryNote _ _).mono (by decide)⟩,
      (coded_primaryError _).mono (by decide)⟩, (coded_referenceErrors _).mono (by decide)⟩,
      (coded_constraints _ _ _).mono (by decide)⟩
  | addField =>
    obtain rfl := Except.ok.inj h
    simp only [addField, lookUp_untracked, List.nil_append]
    exact (coded_resolveFrom _ _ _ _ _ _).mono (by decide)
  | addRelation =>
    obtain rfl := Except.ok.inj h
    simp only [addRelation, lookUp_untracked, List.nil_append]
    split
    · exact coded_nil
    · exact coded_singleton (by decide) _ _ _
  | removeEntity =>
    obtain rfl := Except.ok.inj h
    simp only [removeEntity, lookUp_untracked, List.nil_append]
    split
    · exact coded_singleton (by decide) _ _ _
    · exact coded_nil
  | removeField =>
    obtain rfl := Except.ok.inj h
    simp only [removeField, lookUp_untracked, List.nil_append]
    exact (coded_repeatedWarning _).mono (by decide)
  | renameEntity =>
    obtain rfl := Except.ok.inj h
    simp only [renameEntity, lookUp_untracked, takenError_untracked, List.nil_append, coded_append]
    exact ⟨(coded_reservedWarning _ _ _).mono (by decide), coded_singleton (by decide) _ _ _⟩
  | renameField =>
    obtain rfl := Except.ok.inj h
    simp only [renameField, lookUp_untracked, List.nil_append, coded_append]
    exact ⟨(coded_reservedWarning _ _ _).mono (by decide), coded_singleton (by decide) _ _ _⟩
  | addEndpoint =>
    obtain rfl := Except.ok.inj h
    simp only [addEndpoint, mention_untracked, List.nil_append, coded_append]
    exact ⟨(coded_resolveFrom _ _ _ _ _ _).mono (by decide),
      (coded_resolveFrom _ _ _ _ _ _).mono (by decide)⟩
  | updateEndpoint =>
    obtain rfl := Except.ok.inj h
    exact coded_nil
  | addCapability =>
    simp only [ofPart, addCapability, mention_untracked, Diagnostic.firstMisuse?_nil] at h
    obtain ⟨overlay, ho, h⟩ := bind_eq_ok h
    obtain rfl := Except.ok.inj h
    simp only [List.nil_append, coded_append]
    cases overlay with
    | none =>
      have hnote : Coded ownCodes [overlayNote (.ofPart p) none] :=
        coded_singleton (by decide) _ _ _
      exact ⟨coded_nil, hnote⟩
    | some o =>
      have hnote : Coded ownCodes [overlayNote (.ofPart p) (some o)] :=
        coded_singleton (by decide) _ _ _
      exact ⟨(Resolved.Overlay.coded_ofCapability? ho).mono (by decide), hnote⟩
  | addComponent =>
    obtain rfl := Except.ok.inj h
    simp only [addComponent, mention_untracked]
    exact coded_nil

end Draft

namespace Diagnostic

/-- Whether a diagnostic warns that an entity does not exist. -/
def warnsOfMissing (d : Diagnostic) : Bool :=
  d.code == "IR030" && d.severity == .warning

end Diagnostic

namespace Draft

variable {k : Kind} {c : Context} {p : Intent.Part}

/-- What is reported of entities that are looked up is an error, or warns that one is missing. -/
theorem isError_or_of_mem_lookUps {d : Diagnostic} (h : d ∈ lookUps k c p) :
    d.isError = true ∨ d.warnsOfMissing = true := by
  have looked : ∀ {label name path : String}, d ∈ lookUp c .error label name path →
      d.isError = true := by
    intro label name path hd
    unfold lookUp at hd
    split at hd
    · simp at hd
    · obtain rfl := List.mem_singleton.mp hd
      rfl
  have taken : ∀ {name : String}, d ∈ takenError c name → d.isError = true := by
    intro name hd
    unfold takenError at hd
    split at hd
    · simp at hd
    · split at hd
      · obtain rfl := List.mem_singleton.mp hd
        rfl
      · simp at hd
  have mentioned : ∀ {entity : Option String}, d ∈ mention c entity → d.warnsOfMissing = true := by
    intro entity hd
    unfold mention lookUp at hd
    split at hd
    · simp at hd
    · split at hd
      · simp at hd
      · obtain rfl := List.mem_singleton.mp hd
        rfl
  cases k with
  | addEntity | updateEndpoint => simp [lookUps] at h
  | addField | removeEntity | removeField | renameField => exact .inl (looked h)
  | addRelation =>
    rcases List.mem_append.mp h with h | h
    · exact .inl (looked h)
    · exact .inl (looked h)
  | renameEntity =>
    rcases List.mem_append.mp h with h | h
    · exact .inl (looked h)
    · exact .inl (taken h)
  | addEndpoint | addCapability | addComponent => exact .inr (mentioned h)

/-- Where no error comes up, the warnings that entities are missing are all that the known entities
add to what is reported. -/
theorem filter_reported {d : Draft} (hd : ofPart k (c.withKnown none) p = .ok d)
    (h : (lookUps k c p ++ d.diagnostics).any Diagnostic.isError = false) :
    (lookUps k c p ++ d.diagnostics).filter (!·.warnsOfMissing) = d.diagnostics := by
  rw [List.any_append, Bool.or_eq_false_iff, List.any_eq_false, List.any_eq_false] at h
  have hlooked : (lookUps k c p).filter (!·.warnsOfMissing) = [] := by
    rw [List.filter_eq_nil_iff]
    intro x hx
    rcases isError_or_of_mem_lookUps hx with herror | hmissing
    · exact absurd herror (h.1 x hx)
    · simp [hmissing]
  have hown : d.diagnostics.filter (!·.warnsOfMissing) = d.diagnostics := by
    rw [List.filter_eq_self]
    intro x hx
    have hcode : x.code ≠ "IR030" := by
      intro hcode
      exact absurd (hcode ▸ coded_ofPart hd x hx) (by decide)
    simp [Diagnostic.warnsOfMissing, hcode]
  rw [List.filter_append, hlooked, hown, List.nil_append]

end Draft

end SchemaIntents
