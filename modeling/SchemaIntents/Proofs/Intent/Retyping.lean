import SchemaIntents.Proofs.Intent.Faithful
import SchemaIntents.Proofs.Resolved.Isolation
import SchemaIntents.Proofs.Shape.Places

/-! Intents in which one field gets another word for its type and loses its relation. The model of
the intent still accepts it, and nothing else in it changes. -/
namespace SchemaIntents

open Shape Value

namespace Intent

/-- A field as data with another word for its type, and without its relation. -/
def retype (word : String) : Value → Value
  | .obj es => .obj (put "type" (.str word) (es.filter fun e => e.1 != "relation"))
  | v => v

/-- An intent as data, of which one of the fields under a key has another word for its type. -/
def retypeAt (key : String) (n : Nat) (word : String) (v : Value) : Value :=
  match v.at? [.key key, .index n] with
  | some w => v.replace [.key key, .index n] (retype word w)
  | none => v

variable {word : String} {l : Nat}

/-- Parts that differ in type and relation alone are read as fields that do. -/
theorem ofPart_eq_retyped {q q' : Part}
    (h : ∀ name ∈ (schema .field).fields.map (·.name), name ≠ "type" → name ≠ "relation" →
      Part.get q' name = q.get name)
    (htype : Part.get q' "type" = .plain (.str word))
      (hrelation : Part.get q' "relation" = .plain .null) :
    AuthoredField.ofPart q' = (AuthoredField.ofPart q).retyped word := by
  simp (disch := decide) only [AuthoredField.ofPart, AuthoredField.retyped, Part.text, Part.some?,
    Part.text?, Part.flag?, Part.whole?, Part.real?, Part.texts?, Part.items?, Part.part?,
    Part.attributes, htype, hrelation, h]
  rfl

/-- A field with another word for its type is still a field, and is read as it was but for that. -/
theorem checker_retype (word : String) {es : List (String × Value)} {q : Part}
    (h : (Value.obj es).checker schema l (.model .field) = .ok q) :
    ∃ q', (retype word (.obj es)).checker schema l (.model .field) = .ok q' ∧
      AuthoredField.ofPart q' = (AuthoredField.ofPart q).retyped word := by
  have hlevel := (checkModel_eq_ok.mp (checker_obj_model l Name.field es ▸ h)).1
  have hspelled : ∀ f ∈ (schema .field).fields, f.name = f.wire := by decide
  have hkeys := mem_wires_of_checker (n := Name.field) rfl hspelled h
  let es' := put "type" (.str word) (es.filter fun e => e.1 != "relation")
  let g : String → Part := fun name =>
    if name = "type" then .plain (.str word) else if name = "relation" then .plain .null
    else q.get name
  have hput : ∀ key ∈ es'.map (·.1), key ∈ (schema .field).fields.map (·.wire) := by
    intro key hkey
    rcases mem_put hkey with hkey | rfl
    · obtain ⟨e, he, rfl⟩ := List.mem_map.mp hkey
      exact hkeys _ (List.mem_map_of_mem (List.mem_of_mem_filter he))
    · decide
  have outcomes : ∀ f ∈ (schema .field).fields,
      fieldOutcome schema (l - (schema .field).level) (textKeyed es') f = .ok (g f.name) := by
    intro f hf
    by_cases htype : f.name = "type"
    · obtain rfl := List.inj_on_of_nodup_map (names_nodup .field) hf
        (show Field.required "type" "type" .anyText ∈ _ by simp [schema, field]) htype
      exact fieldOutcome_of_find? (find?_put_self _ _ _)
    by_cases hrelation : f.name = "relation"
    · obtain rfl := List.inj_on_of_nodup_map (names_nodup .field) hf
        (show Field.maybe "relation" "relation" (.model .fieldRelation) ∈ _ by simp [schema, field])
        hrelation
      have hnone : find? "relation" es' = none := by
        rw [find?_put_of_ne (by decide)]
        exact find?_eq_none (by simp)
      simp only [fieldOutcome, textKeyed, findAny?_text_keys, Field.maybe, hnone]
      rfl
    · have hsame : find? f.name es' = find? f.name es := by
        rw [find?_put_of_ne htype, find?_filter hrelation]
      rw [fieldOutcome_congr (hspelled f hf ▸ hsame) hsame,
        Instance.fieldOutcome_of_checker (names_nodup .field) h hf]
      simp [g, htype, hrelation, Part.get]
  obtain ⟨q', hq', hfields⟩ := checker_of_outcomes g rfl (names_nodup .field) (by decide) hlevel
    hput outcomes
  refine ⟨q', hq', ofPart_eq_retyped (fun name hname htype hrelation => ?_)
    (hfields "type" (by decide)) (hfields "relation" (by decide))⟩
  rw [Part.get, hfields name hname]
  simp [g, htype, hrelation]

section Lists

variable {n least : Nat} {f : AuthoredField}

/-- A list of fields stays one if one of them gets another word for its type. -/
theorem checker_list_retype (word : String) {vs : List Value} {q : Part} (hvs : ∀ v ∈ vs, v.IsJson)
    (h : (Value.list vs).checker schema l (.list least (.model .field)) = .ok q)
    (hf : (q.items.map AuthoredField.ofPart)[n]? = some f) :
    ∃ w q', vs[n]? = some w ∧
      (Value.list (vs.set n (retype word w))).checker schema l (.list least (.model .field)) =
        .ok q' ∧
      q'.items.map AuthoredField.ofPart =
        (q.items.map AuthoredField.ofPart).set n (f.retyped word) := by
  rw [checker_list_list] at h
  obtain ⟨is, rfl, hleast, his⟩ := checkList_eq_ok.mp h
  obtain ⟨i, hi, rfl⟩ : ∃ i, is[n]? = some i ∧ AuthoredField.ofPart i = f := by
    simpa [Instance.items] using hf
  obtain ⟨hn, rfl⟩ := List.getElem?_eq_some_iff.mp hi
  have hn' : n < vs.length := his.length_eq ▸ hn
  have hitem : vs[n].checker schema l (.model .field) = .ok is[n] :=
    (List.forall₂_iff_get.mp his).2 n hn' hn
  obtain ⟨es, hes⟩ := exists_obj_of_checker (hvs _ (List.getElem_mem hn')) hitem
  rw [hes] at hitem
  obtain ⟨i', hi', hretyped⟩ := checker_retype word hitem
  refine ⟨.obj es, .list (is.set n i'), hes ▸ List.getElem?_eq_getElem hn', ?_, ?_⟩
  · rw [checker_list_list]
    exact checkList_eq_ok.mpr ⟨_, rfl, by simpa using hleast, forall₂_set his hi' n⟩
  · simp [Instance.items, List.map_set, hretyped]

end Lists

/-- A part that holds what another one does, but for the type and relation of one of the fields that
are listed under a key. -/
structure IsRetyped (p p' : Part) (key : String) (n : Nat) (f : AuthoredField) (word : String) :
    Prop where
  fields : p'.fields key = (p.fields key).set n (f.retyped word)
  others : ∀ name ≠ key, Part.get p' name = p.get name

/-- A field under which a model lists fields. The model spells its fields as they are named. -/
structure ListsFields (m : Name) (g : Field Name) : Prop where
  mem : g ∈ (schema m).fields
  level : g.level = 0
  shape : ∃ least, g.shape = .list least (.model .field) ∨
    g.shape = .optional (.list least (.model .field))
  fallback : ∀ d ∈ g.fallback, d = .null
  rule : (schema m).rule = none
  wires : ∀ u ∈ (schema m).fields, u.wire = u.name

theorem ListsFields.spelled {m : Name} {g : Field Name} (hg : ListsFields m g) : g.wire = g.name :=
  hg.wires g hg.mem

theorem fields_eq (p : Part) (key : String) :
    p.fields key = (p.get key).items.map AuthoredField.ofPart := by
  rw [Part.fields, Part.items?, items?_getD]

theorem IsRetyped.fields_of_ne {p p' : Part} {key other word : String} {n : Nat} {f : AuthoredField}
    (h : IsRetyped p p' key n f word) (hne : other ≠ key) : p'.fields other = p.fields other := by
  rw [fields_eq, fields_eq, h.others other hne]

section Whole

variable {m : Name} {g : Field Name} {n : Nat} {f : AuthoredField}
  {es : List (String × Value)} {p : Part}

/-- Where a model lists a field, its value has a list with it. -/
theorem exists_list_of_fields (hg : ListsFields m g) (hes : (Value.obj es).IsJson)
    (h : (Value.obj es).checker schema l (.model m) = .ok p) (hf : (p.fields g.name)[n]? = some f) :
    ∃ vs least, find? g.name es = some (.list vs) ∧ (∀ v ∈ vs, v.IsJson) ∧
      (g.shape = .list least (.model .field) ∨ g.shape = .optional (.list least (.model .field))) ∧
      (Value.list vs).checker schema (l - (schema m).level) (.list least (.model .field)) =
        .ok (p.get g.name) := by
  obtain ⟨least, hshape⟩ := hg.shape
  have hnot : p.get g.name ≠ .plain .null := by
    intro hnull
    simp [fields_eq, hnull, Instance.items] at hf
  cases hw : find? g.name es with
  | none =>
    have ho := Instance.fieldOutcome_of_checker (names_nodup m) h hg.mem
    simp only [fieldOutcome, textKeyed, findAny?_text_keys, hg.spelled, hw] at ho
    cases hd : g.fallback with
    | none => simp [hd] at ho
    | some d =>
      obtain rfl := hg.fallback d hd
      simp only [hd, Except.ok.injEq] at ho
      exact absurd ho.symm hnot
  | some w =>
    have hc := Instance.field_of_checker (names_nodup m) h hg.mem (hg.spelled ▸ hw)
    rw [hg.level, Nat.sub_zero] at hc
    have hjson : w.IsJson := isJson_obj.mp hes _ (mem_of_find? hw)
    have hlist : w.checker schema (l - (schema m).level) (.list least (.model .field)) =
        .ok (p.get g.name) := by
      rcases hshape with hshape | hshape
      · rwa [hshape] at hc
      · by_cases hnull : w = .null
        · rw [hnull, hshape] at hc
          exact absurd (Except.ok.inj hc).symm hnot
        · rwa [hshape, checker_optional hnull] at hc
    obtain ⟨vs, rfl⟩ := exists_list_of_checker hjson hlist
    exact ⟨vs, least, rfl, isJson_list.mp hjson, hshape, hlist⟩

/-- Intents stay accepted if one of their fields gets another word for its type. -/
theorem checker_retypeAt (word : String) (hg : ListsFields m g) (hes : (Value.obj es).IsJson)
    (h : (Value.obj es).checker schema l (.model m) = .ok p) (hf : (p.fields g.name)[n]? = some f) :
    ∃ p', (retypeAt g.name n word (.obj es)).checker schema l (.model m) = .ok p' ∧
      IsRetyped p p' g.name n f word := by
  obtain ⟨vs, least, hvs, hjson, hshape, hlist⟩ := exists_list_of_fields hg hes h hf
  rw [fields_eq] at hf
  obtain ⟨w, q', hw, hq', hfields⟩ := checker_list_retype word hjson hlist hf
  let vs' := vs.set n (retype word w)
  have hedit : retypeAt g.name n word (.obj es) = .obj (put g.name (.list vs') es) := by
    have hat : (Value.obj es).at? [.key g.name, .index n] = some w := by
      simp [Value.at?, hvs, hw]
    have hplace : (Value.obj es).replace [.key g.name, .index n] (retype word w) =
        .obj (put g.name (.list vs') es) := by
      rw [replace_key hvs, replace_index]
      simp [vs', List.set_eq_modify, replace]
    simp only [retypeAt, hat, hplace]
  have hj : (Value.list vs').checker schema (l - (schema m).level - g.level) g.shape = .ok q' := by
    rw [hg.level, Nat.sub_zero]
    rcases hshape with hshape | hshape <;> rw [hshape]
    · exact hq'
    · rwa [checker_optional (by simp)]
  have hkeys : es.map (·.1) = (put g.name (.list vs') es).map (·.1) := by
    rw [keys_put, if_pos (List.mem_map_of_mem (mem_of_find? hvs))]
  obtain ⟨p', hp', hkey, hothers⟩ := checker_replace hg.rule (names_nodup m) hg.mem
    (fun u hu hne => ⟨hg.spelled ▸ hne, hg.wires u hu ▸ hg.spelled ▸ hne⟩) hkeys
    (fun key hkey => (find?_put_of_ne (hg.spelled ▸ hkey) _ _).symm)
    (hg.spelled ▸ find?_put_self _ _ _) hj h
  refine ⟨p', hedit ▸ hp', ?_, hothers⟩
  rw [fields_eq, fields_eq, Part.get, hkey, hfields]

end Whole

end Intent
end SchemaIntents
