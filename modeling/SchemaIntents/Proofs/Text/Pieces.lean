import Mathlib.Data.List.Pairwise
import Mathlib.Data.List.SplitBy
import Mathlib.Logic.Function.Basic

/-! Texts that are put together from pieces, each of which starts with a mark. Where no piece has
another mark in it, the text gives back its pieces. -/
namespace SchemaIntents.Text

variable {mark : Char → Bool} {p : List Char} {ps : List (List Char)}

/-- A mark, and after it no other. -/
structure IsPiece (mark : Char → Bool) (p : List Char) : Prop where
  ne_nil : p ≠ []
  mark_head : mark (p.head ne_nil) = true
  tail_bare : ∀ c ∈ p.tail, mark c = false

theorem IsPiece.isChain (h : IsPiece mark p) : p.IsChain fun _ c => !mark c := by
  obtain ⟨c, cs, rfl⟩ := List.exists_cons_of_ne_nil h.ne_nil
  have hbare : ∀ d ∈ cs, (!mark d) = true := fun d hd => by simpa using h.tail_bare d hd
  refine List.Pairwise.isChain (List.pairwise_cons.mpr ⟨hbare, ?_⟩)
  exact List.pairwise_of_forall_mem_list fun _ _ d hd => hbare d hd

/-- A text that is cut before each mark falls into its pieces. -/
theorem splitBy_flatten_of_isPiece (h : ∀ p ∈ ps, IsPiece mark p) :
    ps.flatten.splitBy (fun _ c => !mark c) = ps := by
  refine List.splitBy_flatten (fun hnil => (h [] hnil).ne_nil rfl) (fun p hp => (h p hp).isChain) ?_
  refine List.Pairwise.isChain (List.pairwise_of_forall_mem_list fun p hp q hq => ?_)
  exact ⟨(h p hp).ne_nil, (h q hq).ne_nil, by simp [(h q hq).mark_head]⟩

/-- What is written in different pieces is written differently. -/
theorem flatMap_inj_of_isPiece {α : Type} {f : α → List Char} (hf : Function.Injective f)
    {xs ys : List α} (hxs : ∀ x ∈ xs, IsPiece mark (f x)) (hys : ∀ y ∈ ys, IsPiece mark (f y)) :
    xs.flatMap f = ys.flatMap f ↔ xs = ys := by
  refine ⟨fun h => List.map_injective_iff.mpr hf ?_, fun h => congrArg _ h⟩
  rw [← splitBy_flatten_of_isPiece (List.forall_mem_map.mpr hxs),
    ← splitBy_flatten_of_isPiece (List.forall_mem_map.mpr hys)]
  exact congrArg _ h

end SchemaIntents.Text
