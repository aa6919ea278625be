import SchemaIntents.Proofs.Value.Json
import SchemaIntents.Value.Misuse

/-! Values that can be shown: no number in them is too long to be written, and no value lies inside
too many others. -/
namespace SchemaIntents.Value

theorem isLongNumber_of_lt {n : Int} (h : n.natAbs < 10) : isLongNumber n = false := by
  have hpow : ∀ k, k ≠ 0 → 10 ≤ Nat.pow 10 k := fun k hk => Nat.le_self_pow hk 10
  have hlong := hpow longestNumber (by decide)
  rw [isLongNumber, decide_eq_false_iff_not]
  omega

theorem hasLongItem_eq (vs : List Value) : hasLongItem vs = vs.any hasLongNumber := by
  induction vs with
  | nil => rfl
  | cons v vs ih => simp [hasLongItem, ih]

theorem hasLongEntry_eq (es : List (String × Value)) :
    hasLongEntry es = es.any (·.2.hasLongNumber) := by
  induction es with
  | nil => rfl
  | cons e es ih =>
    obtain ⟨k, v⟩ := e
    simp [hasLongEntry, ih]

theorem shownItemsFault?_eq_none {room : Nat} {vs : List Value} :
    shownItemsFault? room vs = none ↔ ∀ v ∈ vs, v.shownFault? room = none := by
  induction vs with
  | nil => simp [shownItemsFault?]
  | cons v vs ih => rw [shownItemsFault?, Option.or_eq_none_iff, ih, List.forall_mem_cons]

theorem shownEntriesFault?_eq_none {room : Nat} {es : List (String × Value)} :
    shownEntriesFault? room es = none ↔ ∀ e ∈ es, e.2.shownFault? room = none := by
  induction es with
  | nil => simp [shownEntriesFault?]
  | cons e es ih =>
    obtain ⟨k, v⟩ := e
    rw [shownEntriesFault?, Option.or_eq_none_iff, ih, List.forall_mem_cons]

/-- A value from JSON can be shown just when all its numbers can, and there is room for it. -/
theorem shownFault?_eq_none {v : Value} (h : v.IsJson) {room : Nat} :
    v.shownFault? room = none ↔ v.hasLongNumber = false ∧ v.depth ≤ room := by
  induction h generalizing room with
  | @list items _ ih =>
    cases room with
    | zero => simp [shownFault?, shownInside, depth]
    | succ room =>
      simp only [shownFault?, shownInside, shownItemsFault?_eq_none, hasLongNumber, hasLongItem_eq,
        depth, Nat.add_le_add_iff_right, depthAll_le, List.any_eq_false, Bool.not_eq_true,
        ← forall₂_and]
      exact forall₂_congr fun v hv => ih v hv
  | @obj entries _ ih =>
    cases room with
    | zero => simp [shownFault?, shownInside, depth]
    | succ room =>
      simp only [shownFault?, shownInside, shownEntriesFault?_eq_none, hasLongNumber,
        hasLongEntry_eq, depth, Nat.add_le_add_iff_right, depthEntries_le, List.any_eq_false,
        Bool.not_eq_true, ← forall₂_and]
      exact forall₂_congr fun e he => ih e he
  | int n => cases room <;> simp [shownFault?, shownInside, hasLongNumber, depth]
  | _ => cases room <;> simp [shownFault?, shownInside, hasLongNumber, depth]

@[simp] theorem displayFault?_str (s : String) : displayFault? (.str s) = none :=
  (shownFault?_eq_none (.str s)).mpr ⟨rfl, Nat.le_add_left 1 979⟩

/-- A value from JSON in which no number is too long to be shown, and no value too deep. -/
def IsShort (v : Value) : Prop :=
  v.IsJson ∧ v.displayFault? = none

theorem isShort_iff {v : Value} :
    v.IsShort ↔ v.IsJson ∧ v.hasLongNumber = false ∧ v.depth ≤ shownLimit :=
  and_congr_right fun h => shownFault?_eq_none h

theorem forDisplay_eq_error {v : Value} {m : Misuse} :
    v.forDisplay = .error m ↔ v.displayFault? = some m := by
  rw [forDisplay]
  cases v.displayFault? <;> simp

theorem eq_of_forDisplay {v w : Value} (h : v.forDisplay = .ok w) : w = v := by
  rw [forDisplay] at h
  split at h
  · cases h
  · exact (Except.ok.inj h).symm

theorem eq_of_mapM_forDisplay {vs ws : List Value} (h : vs.mapM forDisplay = .ok ws) : ws = vs := by
  induction vs generalizing ws with
  | nil => exact (Except.ok.inj h).symm
  | cons v vs ih =>
    rw [List.mapM_cons] at h
    cases hv : v.forDisplay with
    | error m => simp [hv, bind, Except.bind] at h
    | ok w =>
      cases hvs : vs.mapM forDisplay with
      | error m => simp [hv, hvs, bind, Except.bind] at h
      | ok rest =>
        simp only [hv, hvs, bind, Except.bind, pure, Except.pure, Except.ok.injEq] at h
        rw [← h, eq_of_forDisplay hv, ih hvs]

/-- The first value that cannot be shown keeps a list of them from being shown. -/
theorem mapM_forDisplay_eq_error {vs : List Value} {m : Misuse} :
    vs.mapM forDisplay = .error m ↔ vs.findSome? displayFault? = some m := by
  induction vs with
  | nil => simp [pure, Except.pure]
  | cons v vs ih =>
    rw [List.mapM_cons, List.findSome?_cons]
    cases hv : v.displayFault? with
    | some fault => simp [forDisplay_eq_error.mpr hv, bind, Except.bind]
    | none =>
      have hshown : v.forDisplay = .ok v := by rw [forDisplay, hv]
      simp only [hshown, ← ih]
      cases vs.mapM forDisplay <;> simp [bind, Except.bind, pure, Except.pure]

end SchemaIntents.Value
