import SchemaIntents.Proofs.Draft.Envelope
import SchemaIntents.Proofs.Resolved.Steps

/-! What is reported while intents are drafted: each diagnostic says something, and none of them
speaks of an envelope that does not fit. -/
namespace SchemaIntents

open Intent (AuthoredField Kind)

namespace Resolved

theorem isOwn_reservedWarning (label name path : String) :
    ∀ d ∈ reservedWarning label name path, d.IsOwn := by
  unfold reservedWarning
  split <;> simp +decide [Diagnostic.IsOwn]

theorem isOwn_resolveFrom (checks : FieldChecks) (owner root : String) (seen : List String)
    (position : Nat) (fs : List AuthoredField) :
    ∀ d ∈ (resolveFrom checks owner root seen position fs).1, d.IsOwn := by
  intro d hd
  cases fieldReport_of_mem_resolveFrom hd <;>
    simp +decide [duplicateError, typeError, Diagnostic.IsOwn]

end Resolved

namespace Draft

open Resolved

variable {c : Context}

theorem isOwn_lookUp (severity : Severity) (label name path : String) :
    ∀ d ∈ lookUp c severity label name path, d.IsOwn := by
  unfold lookUp
  split <;> simp +decide [Diagnostic.IsOwn]

theorem isOwn_mention (entity : Option String) : ∀ d ∈ mention c entity, d.IsOwn := by
  unfold mention
  split
  · simp
  · exact isOwn_lookUp _ _ _ _

/-- An entity that need not be there is no error where it is not. -/
theorem isError_mention {entity : Option String} {d : Diagnostic} (h : d ∈ mention c entity) :
    d.isError = false := by
  unfold mention lookUp at h
  split at h
  · simp at h
  · split at h
    · simp at h
    · obtain rfl := List.mem_singleton.mp h
      rfl

theorem isOwn_takenError (name : String) : ∀ d ∈ takenError c name, d.IsOwn := by
  unfold takenError
  split
  · simp
  · split <;> simp +decide [Diagnostic.IsOwn]

theorem isOwn_repeatedWarning (names : List String) : ∀ d ∈ repeatedWarning names, d.IsOwn := by
  unfold repeatedWarning
  split <;> simp +decide [Diagnostic.IsOwn]

/-- Whatever is reported for a draft is the draft's own. -/
theorem isOwn_diagnostics {k : Kind} {p : Intent.Part} {d : Draft} (hk : k ≠ .addEntity)
    (hk' : k ≠ .addCapability) (hd : ofPart k c p = .ok d) : ∀ x ∈ d.diagnostics, x.IsOwn := by
  cases k with
  | addEntity => exact absurd rfl hk
  | addCapability => exact absurd rfl hk'
  | addField =>
    obtain rfl := Except.ok.inj hd
    simp only [addField, List.forall_mem_append]
    exact ⟨isOwn_lookUp _ _ _ _, isOwn_resolveFrom _ _ _ _ _ _⟩
  | addRelation =>
    obtain rfl := Except.ok.inj hd
    simp only [addRelation, List.forall_mem_append]
    exact ⟨⟨isOwn_lookUp _ _ _ _, isOwn_lookUp
      _ _ _ _⟩, by split <;> simp +decide [Diagnostic.IsOwn]⟩
  | removeEntity =>
    obtain rfl := Except.ok.inj hd
    simp only [removeEntity, List.forall_mem_append]
    exact ⟨isOwn_lookUp _ _ _ _, by split <;> simp +decide [Diagnostic.IsOwn]⟩
  | removeField =>
    obtain rfl := Except.ok.inj hd
    simp only [removeField, List.forall_mem_append]
    exact ⟨isOwn_lookUp _ _ _ _, isOwn_repeatedWarning _⟩
  | renameEntity =>
    obtain rfl := Except.ok.inj hd
    simp only [renameEntity, List.forall_mem_append]
    exact ⟨⟨⟨isOwn_lookUp _ _ _ _, isOwn_takenError _⟩, isOwn_reservedWarning _ _ _⟩,
      by simp +decide [Diagnostic.IsOwn]⟩
  | renameField =>
    obtain rfl := Except.ok.inj hd
    simp only [renameField, List.forall_mem_append]
    exact ⟨⟨isOwn_lookUp _ _ _ _, isOwn_reservedWarning _ _ _⟩, by simp +decide [Diagnostic.IsOwn]⟩
  | addEndpoint =>
    obtain rfl := Except.ok.inj hd
    simp only [addEndpoint, List.forall_mem_append]
    exact ⟨⟨isOwn_mention _, isOwn_resolveFrom _ _ _ _ _ _⟩, isOwn_resolveFrom _ _ _ _ _ _⟩
  | updateEndpoint =>
    obtain rfl := Except.ok.inj hd
    simp [updateEndpoint]
  | addComponent =>
    obtain rfl := Except.ok.inj hd
    exact isOwn_mention _

end Draft
end SchemaIntents
