import SchemaIntents.Document
import SchemaIntents.Proofs.Json.Canonical

/-! What the identity of a document tells. Its canonical text is the same just for documents that
are equal up to the order of keys. -/
namespace SchemaIntents.Document

open Value (Regular Reordered)

variable {v w : Value}

theorem identity_congr (room : Nat) (hv : v.Regular) (h : v.Reordered w) :
    identity room v = identity room w := by
  obtain ⟨htext, hfault⟩ := Json.canonical_of_reordered room h hv
  rw [identity, identity, htext, hfault]

/-- The canonical text that is digested for the identity of a document is that of another one just
when they are equal up to the order in which keys stand, at every depth; and then they have one
identity, or none for one reason, whatever room there is to write them. -/
theorem canonical_eq_iff_reordered (hv : v.Regular) (hw : w.Regular) :
    (Json.canonical v = Json.canonical w ↔ v.Reordered w) ∧
      (v.Reordered w → ∀ room, identity room v = identity room w) := by
  refine ⟨⟨fun h => ?_, fun h => (Json.canonical_of_reordered 0 h hv).1⟩,
    fun h room => identity_congr room hv h⟩
  exact (Json.reordered_of_append (r := []) (s := []) hv hw Json.ends_nil
    Json.ends_nil (by rw [h])).1

/-- A document with a number and a mapping inside. -/
def keyed (one : Value) (flags : List (String × Value)) : Value := .obj [
  ("version", .str "1"),
  ("intents", .list [one, .obj flags])]

theorem regular_keyed {one : Value} {flags : List (String × Value)} (hone : one.Regular)
    (hn : (flags.map (·.1)).Nodup) (hflags : ∀ e ∈ flags, e.2.Regular) :
    (keyed one flags).Regular := by
  refine .obj (by simp) ?_
  simp only [List.forall_mem_cons]
  refine ⟨.str _, .list ?_, by simp⟩
  simp only [List.forall_mem_cons]
  exact ⟨hone, .obj hn hflags, by simp⟩

/-- The order of keys is of no account, but whether a number is whole or a float is. -/
theorem canonical_eq_iff_reordered_keyed :
    let one : Value := .float ⟨0x3ff0000000000000⟩
    let v := keyed one [("a", .null), ("b", .bool true)]
    let w := keyed one [("b", .bool true), ("a", .null)]
    let u := keyed (.int 1) [("b", .bool true), ("a", .null)]
    v.Regular ∧ w.Regular ∧ u.Regular ∧ Json.canonical v = Json.canonical w ∧
      (∀ room, identity room v = identity room w) ∧ Json.canonical w ≠ Json.canonical u := by
  intro one v w u
  have hone : one.Regular := .float (by decide)
  have hab : ∀ e ∈ [("a", Value.null), ("b", Value.bool true)], e.2.Regular := by
    simp [Regular.null, Regular.bool]
  have hba : ∀ e ∈ [("b", Value.bool true), ("a", Value.null)], e.2.Regular := by
    simp [Regular.null, Regular.bool]
  have hv : v.Regular := regular_keyed hone (by decide) hab
  have hw : w.Regular := regular_keyed hone (by decide) hba
  have hu : u.Regular := regular_keyed (.int 1) (by decide) hba
  have hvw : v.Reordered w := by
    have hsame : one.Reordered one := .float rfl
    have hflags : Reordered (.obj [("a", .null), ("b", .bool true)])
        (.obj [("b", .bool true), ("a", .null)]) :=
      .obj (by decide) (by simp [Reordered.null, Reordered.bool])
    have hlist : Reordered (.list [one, .obj [("a", .null), ("b", .bool true)]])
        (.list [one, .obj [("b", .bool true), ("a", .null)]]) := .list rfl (by simp [hsame, hflags])
    exact .obj (.refl _) (by simp [Reordered.str, hlist])
  have hwu : ¬w.Reordered u := by
    intro h
    simp only [w, u, keyed] at h
    cases h with
    | obj _ h =>
      cases h _ (.tail _ (.head _)) _ (.tail _ (.head _)) rfl with
      | list _ h => cases h _ (.head _)
  obtain ⟨htext, hidentity⟩ := canonical_eq_iff_reordered hv hw
  exact ⟨hv, hw, hu, htext.mpr hvw, hidentity hvw,
    fun h => hwu ((canonical_eq_iff_reordered hw hu).1.mp h)⟩

end SchemaIntents.Document
