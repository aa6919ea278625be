import SchemaIntents.Proofs.Shape.Places

/-! Keys that belong to no field. A mapping that is read as a model has none, and one more key is
the one thing that is wrong with the whole value. -/
namespace SchemaIntents

variable {ν : Type} {schema : Schema ν} {n : ν} {k : String} {w : Value}
  {es before after : List (String × Value)}

namespace Shape

open Checked Value

/-- A key that is neither the name of a field of a model nor its key on the wire. -/
def IsStranger (schema : Schema ν) (n : ν) (k : String) : Prop :=
  ∀ f ∈ (schema n).fields, f.wire ≠ k ∧ f.name ≠ k

theorem spelling?_eq_some {f : Field ν} {key : String} : spelling? f
    ((textKeyed es).map fun e => (e.1, e.2.checker schema)) = some key ↔
      (key = f.wire ∨ key = f.name ∧ find? f.wire es = none) ∧ (find? key es).isSome = true := by
  simp only [spelling?, checkerOf?_map, textKeyed, findAny?_text_keys, Option.isSome_map]
  cases hwire : find? f.wire es with
  | some v =>
    simp only [Option.isSome_some, if_true, Option.some.injEq, reduceCtorEq, and_false, or_false]
    constructor
    · rintro rfl
      exact ⟨rfl, by rw [hwire, Option.isSome_some]⟩
    · rintro ⟨rfl, -⟩
      rfl
  | none =>
    simp only [Option.isSome_none, Bool.false_eq_true, if_false, and_true]
    constructor
    · split
      case isTrue hname =>
        rintro ⟨⟩
        exact ⟨.inr rfl, hname⟩
      case isFalse => simp
    · rintro ⟨rfl | rfl, hkey⟩
      · simp [hwire] at hkey
      · rw [if_pos hkey]

/-- Every key of a mapping spells a field of a model: by its key on the wire, or else by its
name. -/
def AllSpelled (schema : Schema ν) (n : ν) (es : List (String × Value)) : Prop :=
  ∀ e ∈ es, ∃ f ∈ (schema n).fields, e.1 = f.wire ∨ e.1 = f.name ∧ find? f.wire es = none

theorem AllSpelled.isTornRecord [schema.Whole] (h : AllSpelled schema n es) :
    isTornRecord schema n (textKeyed es) = false := by
  refine isTornRecord_eq_false fun e he => ?_
  obtain ⟨f, hf, hkey⟩ := h e he
  obtain ⟨hwire, hname⟩ := Schema.Whole.whole n f hf
  rcases hkey with hkey | ⟨hkey, -⟩ <;> rwa [hkey]

/-- A closed model has no strangers just when every key spells a field. -/
theorem strangers_eq_nil_iff [schema.Whole] (hclosed : (schema n).closed = true) :
    strangers schema n (textKeyed es) = [] ↔ AllSpelled schema n es := by
  by_cases htorn : isTornRecord schema n (textKeyed es) = true
  · rw [strangers_of_isTornRecord htorn]
    exact iff_of_false (by simp) fun h => by simp [h.isTornRecord] at htorn
  rw [strangers_of_closed hclosed (by simpa using htorn), otherKeys_eq_nil]
  refine forall₂_congr fun e he => ?_
  simp only [spellings, List.mem_filterMap, List.mem_map, id, exists_eq_right, spelling?_eq_some]
  have hthere : (find? e.1 es).isSome = true := Option.isSome_iff_ne_none.mpr (find?_ne_none he)
  simp only [hthere, and_true]

theorem otherKeys_append (known : List String) (cs ds : List (Value × Checker ν)) :
    otherKeys known (cs ++ ds) = otherKeys known cs ++ otherKeys known ds := by
  induction cs with
  | nil => rfl
  | cons c cs ih =>
    obtain ⟨key, c⟩ := c
    cases key with
    | str key => by_cases hk : key ∈ known <;> simp [otherKeys, ih, hk]
    | _ => simp [otherKeys, ih]

theorem isTornRecord_insert :
    isTornRecord schema n (textKeyed (before ++ (k, w) :: after)) =
      ((schema n).closed && Text.isTorn k || isTornRecord schema n
        (textKeyed (before ++ after))) := by
  simp only [isTornRecord, any_isTornKey_textKeyed, List.any_append, List.any_cons]
  cases (schema n).closed <;> simp [Bool.or_left_comm]

/-- Which keys are left over when a stranger comes in. -/
theorem strangers_insert (hclosed : (schema n).closed = true) (hk : IsStranger schema n k)
    (hwhole : Text.isTorn k = false)
    (hnone : strangers schema n (textKeyed (before ++ after)) = []) :
    strangers schema n (textKeyed (before ++ (k, w) :: after)) = [⟨.extra, [.key k]⟩] := by
  have same : spellings schema n (textKeyed (before ++ (k, w) :: after)) =
      spellings schema n (textKeyed (before ++ after)) := by
    refine List.map_congr_left fun f hf => ?_
    obtain ⟨hwire, hname⟩ := hk f hf
    simp only [spelling?, checkerOf?_map, textKeyed, findAny?_text_keys, Option.isSome_map,
      find?_insert hwire, find?_insert hname]
  have unknown : k ∉ (spellings schema n (textKeyed (before ++ after))).filterMap id := by
    simp only [spellings, List.mem_filterMap, List.mem_map, id, exists_eq_right, spelling?_eq_some]
    rintro ⟨f, hf, rfl | ⟨rfl, -⟩, -⟩
    · exact (hk f hf).1 rfl
    · exact (hk f hf).2 rfl
  have untorn := isTornRecord_of_strangers_eq_nil hnone
  have untorn' : isTornRecord schema n (textKeyed (before ++ (k, w) :: after)) = false := by
    rw [isTornRecord_insert, hwhole, untorn, Bool.and_false, Bool.or_false]
  rw [strangers_of_closed hclosed untorn, otherKeys_eq_nil, List.forall_mem_append] at hnone
  rw [strangers_of_closed hclosed untorn', same]
  have split : textKeyed (before ++ (k, w) :: after) =
      textKeyed before ++ (.str k, w) :: textKeyed after := by
    simp [textKeyed]
  rw [split, List.map_append, List.map_cons, otherKeys_append,
    otherKeys_eq_nil.mpr hnone.1, otherKeys, otherKeys_eq_nil.mpr hnone.2, List.nil_append, if_neg]
  rwa [List.contains_iff_mem]

/-- The issue with a key that belongs to no field. It lies at the mapping if the key has halves of
pairs. -/
def strangerIssue (k : String) : Issue :=
  if Text.isTorn k then ⟨.undecodableText, []⟩ else ⟨.extra, [.key k]⟩

/-- A mapping that fits a closed model fits no more with one more key, and that key is all that is
wrong. -/
theorem checker_insert {l : Nat} {i : Instance ν} (hclosed : (schema n).closed = true)
    (hk : IsStranger schema n k)
    (h : (Value.obj (before ++ after)).checker schema l (.model n) = .ok i) :
    (Value.obj (before ++ (k, w) :: after)).checker schema l (.model n) =
      .error [strangerIssue k] := by
  obtain ⟨hlevel, hfits⟩ := checkModel_eq_ok.mp (checker_obj_model l n _ ▸ h)
  obtain ⟨values, hvalues, hnone, -, -⟩ := checkFields_eq_ok.mp hfits
  rw [checker_obj_model, checkModel, if_neg (Nat.not_lt.mpr hlevel), strangerIssue]
  cases htorn : Text.isTorn k with
  | true =>
    have torn : isTornRecord schema n (textKeyed (before ++ (k, w) :: after)) = true := by
      rw [isTornRecord_insert, hclosed, htorn, Bool.and_true, Bool.true_or]
    rw [checkFields_of_isTornRecord torn]
    rfl
  | false =>
    have same : ∀ f ∈ (schema n).fields,
        fieldOutcome schema (l - (schema n).level) (textKeyed (before ++ (k, w) :: after)) f =
          fieldOutcome schema (l - (schema n).level) (textKeyed (before ++ after)) f :=
      fun f hf => fieldOutcome_congr (find?_insert (hk f hf).1) (find?_insert (hk f hf).2)
    have untorn : isTornRecord schema n (textKeyed (before ++ (k, w) :: after)) = false := by
      rw [isTornRecord_insert, htorn, isTornRecord_of_strangers_eq_nil hnone, Bool.and_false,
        Bool.or_false]
    rw [checkFields_eq untorn, List.map_congr_left same, collect_map_eq_ok.mpr hvalues,
      strangers_insert hclosed hk htorn hnone]
    rfl

end Shape

/-- A value that fits a shape fits no more with one more key in a mapping that is read as a closed
model, and that key is all that is wrong. -/
theorem Leads.checker_insert (hs : schema.Spelled)
    (hclosed : (schema n).closed = true) {s : Shape ν}
    {v : Value} {place loc : Location} {l : Nat} {i : Instance ν} (hst : s.hasTags schema = true)
    (hk : Shape.IsStranger schema n k)
    (h : Leads schema s v place (.model n) (.obj (before ++ after)) loc)
    (hi : v.checker schema l s = .ok i) :
    (v.replace place (.obj (before ++ (k, w) :: after))).checker schema l s =
      .error [(Shape.strangerIssue k).inside loc] := by
  obtain ⟨l', j, hj, hall⟩ := h.carries hs hst hi
  have hkeep : KeepsTags schema n (before ++ after) (before ++ (k, w) :: after) :=
    fun f hf _ => Value.find?_insert (hk f hf).1
  exact (hall _ hkeep).error _ (Shape.checker_insert hclosed hk hj)

end SchemaIntents
