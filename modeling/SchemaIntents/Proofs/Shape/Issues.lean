import SchemaIntents.Proofs.Shape.Deciding

/-! The issues of a check that fails: those of a model are those of its fields, each at its field,
and then its strangers. Whatever keeps a value from fitting a shape is told, so that no check fails
without an issue. Scalars are left out there, for bytes that can be read in each of the four ways
are none of them. -/
namespace SchemaIntents

variable {ν : Type} {schema : Schema ν}

/-- An outcome is a result, or else some issues. -/
def Explained {α : Type} (c : Except (List Issue) α) : Prop :=
  c ≠ .error []

section Outcomes

variable {α : Type}

@[simp] theorem explained_ok (a : α) : Explained (.ok a : Except (List Issue) α) := by
  simp [Explained]

@[simp] theorem explained_error {issues : List Issue} :
    Explained (.error issues : Except (List Issue) α) ↔ issues ≠ [] := by
  simp [Explained]

theorem Finds.explained {c : Except (List Issue) α} {issues : List Issue} (h : Finds c issues) :
    Explained c := by
  rcases h.ok_or_error with ⟨a, rfl, -⟩ | ⟨rfl, hne⟩
  · exact explained_ok a
  · exact explained_error.mpr hne

open Checked

@[simp] theorem explained_fail (cause : Cause) : Explained (fail cause : Checked ν) := by
  simp [fail]

theorem explained_under {c : Checked ν} (h : Explained c) (step : Step) :
    Explained (c.under step) := by
  cases c with
  | ok i => exact explained_ok i
  | error issues => simpa using h

theorem explained_ofReader {make : α → Value} (r : Except Cause α) :
    Explained (ofReader make r : Checked ν) := by
  cases r <;> simp [ofReader]

theorem explained_readWith {make : α → Value} {fault? : α → Option Cause} (r : Except Cause α) :
    Explained (Shape.readWith make fault? r : Checked ν) := by
  unfold Shape.readWith
  split
  · exact explained_fail _
  · split <;> simp

/-- Outcomes taken together are explained if each of them is. -/
theorem explained_collect {cs : List (Checked ν)} (h : ∀ c ∈ cs, Explained c) :
    Explained (collect cs) := by
  induction cs with
  | nil => exact explained_ok []
  | cons c cs ih =>
    rw [List.forall_mem_cons] at h
    have hrest := ih h.2
    cases c with
    | ok i =>
      cases hc : collect cs <;> simp_all [collect]
    | error here =>
      cases hc : collect cs <;> simp_all [collect]

/-- Outcomes taken together have the issues of all of them. -/
theorem issues_of_collect (cs : List (Checked ν)) :
    match collect cs with
    | .ok _ => cs.flatMap Checked.issues = []
    | .error issues => issues = cs.flatMap Checked.issues := by
  induction cs with
  | nil => rfl
  | cons c cs ih =>
    rw [List.flatMap_cons]
    cases c with
    | ok i => cases hc : collect cs <;> simp_all [collect]
    | error here => cases hc : collect cs <;> simp_all [collect]

end Outcomes

namespace Shape

open Checked Value

variable {l : Nat}

/-- What keeps a mapping from fitting a model without a rule: the issues of its fields and its
strangers. -/
theorem issues_of_checker {n : ν} {es : List (String × Value)} {issues : List Issue}
    (hl : (schema n).level ≤ l) (hr : (schema n).rule = none)
    (htorn : isTornRecord schema n (textKeyed es) = false)
    (h : (Value.obj es).checker schema l (.model n) = .error issues) :
    issues = ((schema n).fields.flatMap fun f =>
      (fieldOutcome schema (l - (schema n).level) (textKeyed es) f).issues) ++
        strangers schema n (textKeyed es) := by
  have hfields := issues_of_collect ((schema n).fields.map
    (fieldOutcome schema (l - (schema n).level) (textKeyed es)))
  rw [List.flatMap_map] at hfields
  rw [checker_obj_model, checkModel, if_neg (Nat.not_lt.mpr hl), checkFields_eq htorn] at h
  cases hc : collect ((schema n).fields.map
      (fieldOutcome schema (l - (schema n).level) (textKeyed es))) with
  | error found => simp_all
  | ok values => cases hs : strangers schema n (textKeyed es) <;> simp_all

/-- The issues of a field lie at one of its spellings. -/
theorem location_of_mem_fieldOutcome {f : Field ν} {es : List (Value × Value)} {i : Issue}
    (h : i ∈ (fieldOutcome schema l es f).issues) :
    ∃ rest, i.location = .key f.wire :: rest ∨ i.location = .key f.name :: rest := by
  have of_under : ∀ {c : Checked ν} {key}, i ∈ (c.under (.key key)).issues →
      ∃ rest, i.location = .key key :: rest := by
    intro c key hi
    cases c with
    | ok => simp at hi
    | error issues =>
      obtain ⟨j, -, rfl⟩ := List.mem_map.mp hi
      exact ⟨j.location, rfl⟩
  unfold fieldOutcome at h
  split at h
  · obtain ⟨rest, hrest⟩ := of_under h
    exact ⟨rest, .inl hrest⟩
  · split at h
    · obtain ⟨rest, hrest⟩ := of_under h
      exact ⟨rest, .inr hrest⟩
    · split at h
      · simp at h
      · exact ⟨[], .inl (by simp_all)⟩

/-- Whether a shape leads to no scalar, as long as the models of a sort do not. -/
def explains (sort : ν → Bool) : Shape ν → Bool
  | scalar => false
  | list _ s | table s | optional s => s.explains sort
  | model n => sort n
  | tagged _ choices => choices.all fun c => sort c.2
  | _ => true

theorem explained_checkList {vs : List Value} {least : Nat} {item : Shape ν}
    (h : ∀ v ∈ vs, Explained (v.checker schema l item)) :
    Explained (checkList l least item (vs.map (checker schema))) := by
  have hc : Explained (collect (checkItems l item 0 (vs.map (checker schema)))) := by
    rw [checkItems_eq]
    refine explained_collect fun c hc => ?_
    obtain ⟨e, he, rfl⟩ := List.mem_map.mp hc
    exact explained_under (h e.1 (List.fst_mem_of_mem_zipIdx he)) _
  unfold checkList
  cases hall : collect (checkItems l item 0 (vs.map (checker schema))) with
  | error issues => simpa [hall] using hc
  | ok is =>
    simp only
    split <;> simp

theorem explained_checkTable {es : List (Value × Value)} {entry : Shape ν}
    (h : ∀ e ∈ es, Explained (e.2.checker schema l entry)) :
    Explained (checkTable l entry (es.map fun e => (e.1, e.2.checker schema))) := by
  have hc : Explained (collect (checkEntries l entry (es.map fun e =>
    (e.1, e.2.checker schema)))) := by
    rw [checkEntries_eq]
    refine explained_collect fun c hc => ?_
    obtain ⟨e, he, rfl⟩ := List.mem_map.mp hc
    unfold entryOutcome
    cases keyIssues e.1 with
    | nil => exact explained_under (h e he) _
    | cons issue issues => simp
  unfold checkTable
  cases hall : collect (checkEntries l entry (es.map fun e => (e.1, e.2.checker schema))) with
  | error issues => simpa [hall] using hc
  | ok is => simp

/-- A model explains what does not fit if each of its fields explains what it is given. -/
theorem explained_checkModel {n : ν} {es : List (Value × Value)}
    (h : ∀ f ∈ (schema n).fields, ∀ e ∈ es, e.1 = .str f.wire ∨ e.1 = .str f.name →
      ∀ l, Explained (e.2.checker schema l f.shape)) :
    Explained (checkModel schema l n (es.map fun e => (e.1, e.2.checker schema))) := by
  have hfield : ∀ l, ∀ f ∈ (schema n).fields, Explained (fieldOutcome schema l es f) := by
    intro l f hf
    unfold fieldOutcome
    split
    · rename_i v hv
      exact explained_under (h f hf _ (mem_of_findAny? hv) (.inl rfl) _) _
    · split
      · rename_i v hv
        exact explained_under (h f hf _ (mem_of_findAny? hv) (.inr rfl) _) _
      · split <;> simp
  rw [checkModel]
  by_cases hl : l < (schema n).level
  · rw [if_pos hl]
    exact explained_fail _
  rw [if_neg hl]
  by_cases htorn : isTornRecord schema n es = true
  · rw [checkFields_of_isTornRecord htorn]
    exact explained_fail _
  · have hc : Explained (collect ((schema n).fields.map
        (fieldOutcome schema (l - (schema n).level) es))) := by
      refine explained_collect fun c hc => ?_
      obtain ⟨f, hf, rfl⟩ := List.mem_map.mp hc
      exact hfield _ f hf
    rw [checkFields_eq (by simpa using htorn)]
    cases hall : collect ((schema n).fields.map
      (fieldOutcome schema (l - (schema n).level) es)) with
    | error issues =>
      rw [hall, explained_error] at hc
      exact explained_error.mpr (List.append_ne_nil_of_left_ne_nil hc _)
    | ok values =>
      cases hothers : strangers schema n es with
      | cons issue issues => simp
      | nil =>
        simp only
        split <;> simp

/-- What does not fit a shape that leads to no scalar is explained. -/
theorem explained_checker {sort : ν → Bool}
    (hsort : ∀ n, sort n = true → ∀ f ∈ (schema n).fields, f.shape.explains sort = true)
      {s : Shape ν}
    (hs : s.explains sort = true) (v : Value) (l : Nat) : Explained (v.checker schema l s) := by
  induction hn : sizeOf v using Nat.strongRecOn generalizing v l s with
  | _ size ih =>
    subst hn
    have of_child : ∀ w ∈ v.children, ∀ {t : Shape ν}, t.explains sort = true →
        ∀ l, Explained (w.checker schema l t) :=
      fun w hw _ ht l => ih _ (sizeOf_child_lt hw) ht w l rfl
    have of_model : ∀ {es : List (Value × Value)}, (∀ e ∈ es, e.2 ∈ v.children) →
        ∀ n, sort n = true →
        Explained (checkModel schema l n (es.map fun e => (e.1, e.2.checker schema))) :=
      fun hes n hn => explained_checkModel fun f hf e he _ =>
        of_child _ (hes e he) (hsort n hn f hf)
    induction s with
    | any => exact explained_ok _
    | text | whole => exact explained_readWith _
    | flag | real => exact explained_ofReader _
    | scalar => simp [explains] at hs
    | oneOf words =>
      simp only [checker, checkParts]
      split
      · split <;> simp
      · simp
    | path =>
      simp only [checker, checkParts]
      split <;> simp
    | optional s ihs =>
      by_cases hv : v = .null
      · subst hv
        exact explained_ok _
      · rw [checker_optional hv]
        exact ihs hs
    | names =>
      rcases parts_cases schema v with hp | ⟨vs, hvs, hp⟩ | ⟨es, -, -, hp⟩ <;>
        simp only [checker, checkParts, checkNames, hp]
      · split <;> simp_all
      · have hlist : Explained (checkList l 0 anyText (vs.map (checker schema))) :=
          explained_checkList fun w hw => of_child w (hvs w hw) (t := anyText) rfl l
        split <;> simp_all
      · split <;> simp_all
    | mapping =>
      simp only [checker, checkParts]
      split
      · split
        · exact explained_ok _
        · exact explained_error.mpr ‹_›
      · exact explained_fail _
    | list least s =>
      rcases parts_cases schema v with hp | ⟨vs, hvs, hp⟩ | ⟨es, hes, hk, hp⟩ <;>
        simp only [checker, checkParts, hp]
      · exact explained_fail _
      · exact explained_checkList fun w hw => of_child w (hvs w hw) (t := s) hs l
      · exact explained_fail _
    | table s =>
      rcases parts_cases schema v with hp | ⟨vs, hvs, hp⟩ | ⟨es, hes, hk, hp⟩ <;>
        simp only [checker, checkParts, hp]
      · exact explained_fail _
      · exact explained_fail _
      · exact explained_checkTable fun e he => of_child _ (hes e he) (t := s) hs l
    | model n =>
      rcases parts_cases schema v with hp | ⟨vs, hvs, hp⟩ | ⟨es, hes, hk, hp⟩ <;>
        simp only [checker, checkParts, hp]
      · exact explained_fail _
      · exact explained_fail _
      · exact of_model hes n hs
    | tagged tag choices =>
      rcases parts_cases schema v with hp | ⟨vs, hvs, hp⟩ | ⟨es, hes, hk, hp⟩ <;>
        simp only [checker, checkParts, hp]
      · exact explained_fail _
      · exact explained_fail _
      · unfold checkTagged
        split
        · exact explained_fail _
        · split
          · rename_i t n hc
            refine explained_under (of_model hes n ?_) _
            exact List.all_eq_true.mp hs (t, n) (mem_of_choice? hc)
          · exact explained_fail _

end Shape
end SchemaIntents
