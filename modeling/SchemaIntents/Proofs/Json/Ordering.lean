import Mathlib.Data.List.Nodup
import SchemaIntents.Json.Canonical

/-! Entries in the order of their keys. Sorting only rearranges, and where no key stands twice there
is but one order, whatever order the entries came in. -/
namespace SchemaIntents.Json

variable {κ α β : Type} {atMost : κ → κ → Bool} {es fs : List (κ × α)}

/-- An order of keys in which any two can be compared, and only equal ones both ways. -/
structure Orders (atMost : κ → κ → Bool) : Prop where
  total : ∀ a b, atMost a b = true ∨ atMost b a = true
  trans : ∀ {a b c}, atMost a b = true → atMost b c = true → atMost a c = true
  antisymm : ∀ {a b}, atMost a b = true → atMost b a = true → a = b

theorem orders_textAtMost : Orders textAtMost where
  total a b := by simpa [textAtMost] using String.le_total a b
  trans h h' := by
    simp only [textAtMost, decide_eq_true_eq] at h h' ⊢
    exact String.le_trans h h'
  antisymm h h' := by
    simp only [textAtMost, decide_eq_true_eq] at h h'
    exact String.le_antisymm h h'

theorem orders_positions : Orders fun i j : Nat => decide (i ≤ j) where
  total i j := by simpa using Nat.le_total i j
  trans h h' := by
    simp only [decide_eq_true_eq] at h h' ⊢
    exact Nat.le_trans h h'
  antisymm h h' := by
    simp only [decide_eq_true_eq] at h h'
    exact Nat.le_antisymm h h'

theorem insertBy_perm (e : κ × α) (es : List (κ × α)) : (insertBy atMost e es).Perm (e :: es) := by
  induction es with
  | nil => exact .refl _
  | cons f es ih =>
    rw [insertBy]
    split
    · exact (ih.cons f).trans (.swap e f es)
    · exact .refl _

theorem sortBy_perm (es : List (κ × α)) : (sortBy atMost es).Perm es := by
  have onto : ∀ es sorted : List (κ × α),
      (es.foldl (fun sorted e => insertBy atMost e sorted) sorted).Perm (es ++ sorted) := by
    intro es
    induction es with
    | nil => exact fun _ => .refl _
    | cons e es ih =>
      intro sorted
      exact (ih _).trans (((insertBy_perm e sorted).append_left es).trans List.perm_middle)
  simpa [sortBy] using onto es []

theorem insertBy_pairwise (h : Orders atMost) (e : κ × α)
    (hs : es.Pairwise fun a b => atMost a.1 b.1 = true) :
    (insertBy atMost e es).Pairwise fun a b => atMost a.1 b.1 = true := by
  induction hs with
  | nil => exact List.pairwise_singleton _ _
  | @cons f es hf hs ih =>
    rw [insertBy]
    split
    case isTrue hfe =>
      refine .cons (fun g hg => ?_) ih
      rcases List.mem_cons.mp ((insertBy_perm e es).mem_iff.mp hg) with rfl | hg
      · exact hfe
      · exact hf g hg
    case isFalse hfe =>
      have hef : atMost e.1 f.1 = true := (h.total f.1 e.1).resolve_left hfe
      exact .cons (List.forall_mem_cons.mpr ⟨hef, fun g hg => h.trans hef (hf g hg)⟩) (.cons hf hs)

theorem sortBy_pairwise (h : Orders atMost) (es : List (κ × α)) :
    (sortBy atMost es).Pairwise fun a b => atMost a.1 b.1 = true := by
  have onto : ∀ es sorted : List (κ × α), (sorted.Pairwise fun a b => atMost a.1 b.1 = true) →
      (es.foldl (fun sorted e => insertBy atMost e sorted) sorted).Pairwise
        fun a b => atMost a.1 b.1 = true := by
    intro es
    induction es with
    | nil => exact fun _ hs => hs
    | cons e es ih => exact fun sorted hs => ih _ (insertBy_pairwise h e hs)
  exact onto es [] .nil

/-- Where no key stands twice, the entries in any rising order are the sorted ones. -/
theorem sortBy_eq (h : Orders atMost) (hn : (es.map (·.1)).Nodup) (hp : fs.Perm es)
    (hs : fs.Pairwise fun a b => atMost a.1 b.1 = true) : sortBy atMost es = fs := by
  refine List.Perm.eq_of_pairwise (fun a b ha hb hab hba => ?_) (sortBy_pairwise h es) hs
    ((sortBy_perm es).trans hp.symm)
  -- two entries with one key are one entry, since no key stands twice
  exact List.inj_on_of_nodup_map hn ((sortBy_perm es).mem_iff.mp ha) (hp.mem_iff.mp hb)
    (h.antisymm hab hba)

/-- Where no key stands twice, the order in which entries came is of no account. -/
theorem sortBy_congr (h : Orders atMost) (hn : (es.map (·.1)).Nodup) (hp : fs.Perm es) :
    sortBy atMost fs = sortBy atMost es :=
  (sortBy_eq h hn ((sortBy_perm fs).trans hp) (sortBy_pairwise h fs)).symm

theorem insertBy_map (f : α → β) (e : κ × α) (es : List (κ × α)) :
    insertBy atMost (e.1, f e.2) (es.map fun e => (e.1, f e.2)) =
      (insertBy atMost e es).map fun e => (e.1, f e.2) := by
  induction es with
  | nil => rfl
  | cons g es ih =>
    simp only [List.map_cons, insertBy, ih]
    split <;> rfl

/-- Only keys count for the order. -/
theorem sortBy_map (f : α → β) (es : List (κ × α)) :
    sortBy atMost (es.map fun e => (e.1, f e.2)) = (sortBy atMost es).map fun e =>
      (e.1, f e.2) := by
  have onto : ∀ es sorted : List (κ × α),
      (es.map fun e => (e.1, f e.2)).foldl (fun sorted e => insertBy atMost e sorted)
          (sorted.map fun e => (e.1, f e.2)) =
        (es.foldl (fun sorted e => insertBy atMost e sorted) sorted).map fun e => (e.1, f e.2) := by
    intro es
    induction es with
    | nil => exact fun _ => rfl
    | cons e es ih =>
      intro sorted
      rw [List.map_cons, List.foldl_cons, List.foldl_cons, insertBy_map, ih]
  exact onto es []

end SchemaIntents.Json
