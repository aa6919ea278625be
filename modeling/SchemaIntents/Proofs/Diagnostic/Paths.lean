import SchemaIntents.Diagnostic
import SchemaIntents.Proofs.Json.Tokens
import SchemaIntents.Proofs.Text.Pieces

/-! Paths of places. A point or a bracket opens each step of a path, so a path leads to one place
only, as long as no key brings a point or an opening bracket of its own. -/
namespace SchemaIntents

open Text

/-- The characters that open the steps of a path. -/
def opensStep (c : Char) : Bool :=
  c == '.' || c == '['

/-- A step that is opened but once. A key may bring a point or an opening bracket of its own, a
position never does. -/
def Step.IsPlain : Step → Prop
  | .key name => '.' ∉ name.toList ∧ '[' ∉ name.toList
  | .index _ => True

instance : DecidablePred Step.IsPlain
  | .key _ => inferInstanceAs (Decidable (_ ∧ _))
  | .index _ => inferInstanceAs (Decidable True)

/-- A location of plain steps. -/
def Location.IsPlain (location : Location) : Prop :=
  ∀ step ∈ location, step.IsPlain

instance : DecidablePred Location.IsPlain := fun location =>
  inferInstanceAs (Decidable (∀ step ∈ location, step.IsPlain))

namespace Step

theorem toList_text_key (name : String) : (key name).text.toList = '.' :: name.toList := by
  rw [text, String.toList_append]
  rfl

theorem toList_text_index (position : Int) :
    (index position).text.toList = '[' :: ((toString position).toList ++ [']']) := by
  have htext : (index position).text = "[" ++ toString position ++ "]" := rfl
  rw [htext, String.toList_append, String.toList_append]
  rfl

/-- Names and positions are opened by different characters, and a position ends where its bracket
closes. -/
theorem toList_text_injective : Function.Injective fun step : Step => step.text.toList := by
  intro s t h
  cases s with
  | key name =>
    cases t with
    | key name' =>
      simp only [toList_text_key, List.cons.injEq, true_and, String.toList_inj] at h
      rw [h]
    | index position => simp [toList_text_key, toList_text_index] at h
  | index position =>
    cases t with
    | key name => simp [toList_text_key, toList_text_index] at h
    | index position' =>
      simp only [toList_text_index, List.cons.injEq, true_and, List.append_left_inj,
        String.toList_inj] at h
      rw [Json.toString_inj h]

theorem isPiece_cons {c : Char} {cs : List Char} (hc : opensStep c) (hpoint : '.' ∉ cs)
    (hbracket : '[' ∉ cs) : IsPiece opensStep (c :: cs) := by
  refine ⟨List.cons_ne_nil c cs, hc, fun d hd => ?_⟩
  rw [List.tail_cons] at hd
  have hne : d ≠ '.' := fun heq => hpoint (heq ▸ hd)
  have hne' : d ≠ '[' := fun heq => hbracket (heq ▸ hd)
  simp [opensStep, hne, hne']

theorem IsPlain.isPiece {step : Step} (h : step.IsPlain) : IsPiece opensStep step.text.toList := by
  cases step with
  | key name =>
    rw [toList_text_key]
    exact isPiece_cons rfl h.1 h.2
  | index position =>
    -- a number is made of digits and perhaps a sign
    have hout {c : Char} (hc : ¬(c.isDigit = true ∨ c = '-' ∨ c = ']')) :
        c ∉ (toString position).toList ++ [']'] := by
      rw [List.mem_append, List.mem_singleton]
      rintro (hmem | rfl)
      · exact hc ((Json.mem_toString hmem).imp_right .inl)
      · exact hc (.inr (.inr rfl))
    rw [toList_text_index]
    exact isPiece_cons rfl (hout (by decide)) (hout (by decide))

end Step

namespace Location

variable {root : String} {location location' : Location}

/-- A path is its root and then the texts of its steps. -/
theorem toList_pathFrom (root : String) (location : Location) :
    (location.pathFrom root).toList = root.toList ++ location.flatMap fun step =>
      step.text.toList := by
  induction location generalizing root with
  | nil => simp [pathFrom]
  | cons step location ih =>
    have hnext : pathFrom root (step :: location) = pathFrom (root ++ step.text) location := rfl
    rw [hnext, ih, String.toList_append, List.append_assoc, List.flatMap_cons]

/-- Two places that are seen from one root have one path only if they are one place, whatever the
numbers and the closing brackets in their keys. -/
theorem pathFrom_inj (h : location.IsPlain) (h' : location'.IsPlain) :
    location.pathFrom root = location'.pathFrom root ↔ location = location' := by
  rw [← String.toList_inj, toList_pathFrom, toList_pathFrom, List.append_right_inj]
  exact flatMap_inj_of_isPiece Step.toList_text_injective (fun step hstep => (h step hstep).isPiece)
    fun step hstep => (h' step hstep).isPiece

/-- A key that looks like the end of a position is told from a position. -/
theorem pathFrom_inj_closing :
    let named : Location := [.key "fields", .index 0, .key "0]"]
    let placed : Location := [.key "fields", .index 0, .index 0]
    named.IsPlain ∧ placed.IsPlain ∧ named.pathFrom "$" = "$.fields[0].0]" ∧
      placed.pathFrom "$" = "$.fields[0][0]" ∧ named.pathFrom "$" ≠ placed.pathFrom "$" := by
  intro named placed
  have hnamed : named.IsPlain := by decide
  have hplaced : placed.IsPlain := by decide
  exact ⟨hnamed, hplaced, by decide +kernel, by decide +kernel,
    mt (pathFrom_inj hnamed hplaced).mp (by decide)⟩

/-- With a point in a key, two places have one path. -/
example : pathFrom "$" [.key "seed.rows"] = pathFrom "$"
  [.key "seed", .key "rows"] := by decide +kernel

end Location
end SchemaIntents
