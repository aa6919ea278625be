import SchemaIntents.Proofs.Shape.Checking

/-! Mappings against models: what each field comes to, when a whole model fits, and where its fields
are found afterwards. -/
namespace SchemaIntents

variable {ν : Type} {schema : Schema ν}

/-- No field has halves of pairs in its key or its name. -/
class Schema.Whole (schema : Schema ν) : Prop where
  whole : ∀ n, ∀ f ∈ (schema n).fields, Text.isTorn f.wire = false ∧ Text.isTorn f.name = false

namespace Shape

open Checked Value

theorem checkerOf?_map (key : String) (es : List (Value × Value)) :
    checkerOf? key (es.map fun e => (e.1, e.2.checker schema)) =
      (findAny? key es).map (checker schema) := by
  induction es with
  | nil => rfl
  | cons e es ih =>
    obtain ⟨k, v⟩ := e
    cases k with
    | str s => by_cases h : s = key <;> simp [checkerOf?, findAny?, h, ih]
    | _ => simpa [checkerOf?, findAny?] using ih

/-- What comes of a field: the value at its key on the wire, else at its name, else what it has
while it is absent. -/
def fieldOutcome (schema : Schema ν) (levels : Nat) (es : List (Value × Value)) (f : Field ν) :
    Checked ν :=
  match findAny? f.wire es with
  | some v => (v.checker schema (levels - f.level) f.shape).under (.key f.wire)
  | none =>
    match findAny? f.name es with
    | some v => (v.checker schema (levels - f.level) f.shape).under (.key f.name)
    | none =>
      match f.fallback with
      | some v => .ok (.ofValue v)
      | none => .error [⟨.missing, [.key f.wire]⟩]

theorem checkField_eq (levels : Nat) (es : List (Value × Value)) (f : Field ν) :
    checkField levels (es.map fun e => (e.1, e.2.checker schema)) f =
      fieldOutcome schema levels es f := by
  simp only [checkField, checkerOf?_map, fieldOutcome]
  cases findAny? f.wire es <;> cases findAny? f.name es <;> rfl

/-- The keys of the fields of a model that a mapping has. -/
def spellings (schema : Schema ν) (name : ν) (es : List (Value × Value)) : List (Option String) :=
  (schema name).fields.map (spelling? · (es.map fun e => (e.1, e.2.checker schema)))

/-- Whether a mapping has a key with halves of pairs, and is to be read as a closed model. -/
def isTornRecord (schema : Schema ν) (name : ν) (es : List (Value × Value)) : Bool :=
  (schema name).closed && es.any (isTornKey ·.1)

/-- The issues of the keys that belong to no field of a closed model. A key with halves of pairs is
an issue of the whole mapping. -/
def strangers (schema : Schema ν) (name : ν) (es : List (Value × Value)) : List Issue :=
  if isTornRecord schema name es then [⟨.undecodableText, []⟩]
  else if (schema name).closed then
    otherKeys ((spellings schema name es).filterMap id) (es.map fun e => (e.1, e.2.checker schema))
  else []

theorem strangers_of_isTornRecord {n : ν} {es : List (Value × Value)}
    (h : isTornRecord schema n es = true) : strangers schema n es = [⟨.undecodableText, []⟩] := by
  rw [strangers, if_pos h]

theorem strangers_of_closed {n : ν} {es : List (Value × Value)} (hclosed : (schema n).closed = true)
    (h : isTornRecord schema n es = false) : strangers schema n es =
      otherKeys ((spellings schema n es).filterMap id)
        (es.map fun e => (e.1, e.2.checker schema)) := by
  rw [strangers, if_neg (by simp [h]), if_pos hclosed]

theorem isTornRecord_of_strangers_eq_nil {n : ν} {es : List (Value × Value)}
    (h : strangers schema n es = []) : isTornRecord schema n es = false := by
  by_contra htorn
  rw [strangers_of_isTornRecord (by simpa using htorn)] at h
  cases h

theorem isTorn_wire [schema.Whole] {n : ν} {key : String}
    (h : key ∈ (schema n).fields.map (·.wire)) : Text.isTorn key = false := by
  obtain ⟨f, hf, rfl⟩ := List.mem_map.mp h
  exact (Schema.Whole.whole n f hf).1

theorem any_isTornKey_textKeyed (es : List (String × Value)) :
    (textKeyed es).any (isTornKey ·.1) = es.any fun e => Text.isTorn e.1 := by
  simp [textKeyed, isTornKey, Function.comp_def]

theorem isTornRecord_eq_false {n : ν} {es : List (String × Value)}
    (h : ∀ e ∈ es, Text.isTorn e.1 = false) : isTornRecord schema n (textKeyed es) = false := by
  rw [isTornRecord, any_isTornKey_textKeyed, List.any_eq_false.mpr (by simpa using h),
    Bool.and_false]

/-- A mapping as an instance, when its fields come to some values. -/
def instanceOf (schema : Schema ν) (name : ν) (es : List (Value × Value))
    (values : List (Instance ν)) : Instance ν :=
  .model name ((spellings schema name es).map Option.isSome) values

theorem otherKeys_eq_nil {known : List String} {es : List (String × Value)} :
    otherKeys known ((textKeyed es).map fun e => (e.1, e.2.checker schema)) = [] ↔
      ∀ e ∈ es, e.1 ∈ known := by
  induction es with
  | nil => simp [textKeyed, otherKeys]
  | cons e es ih =>
    obtain ⟨k, v⟩ := e
    rw [List.forall_mem_cons, ← ih]
    by_cases hk : k ∈ known <;> simp [textKeyed, otherKeys, hk]

theorem find?_ne_none {es : List (String × Value)} {e : String × Value} (h : e ∈ es) :
    find? e.1 es ≠ none := by
  induction es with
  | nil => simp at h
  | cons d es ih =>
    obtain ⟨k, v⟩ := d
    by_cases hk : k = e.1
    · simp [find?, hk]
    · rcases List.mem_cons.mp h with rfl | h
      · exact absurd rfl hk
      · simpa [find?, hk] using ih h

/-- Keys on the wire are no strangers. -/
theorem strangers_eq_nil {n : ν} {es : List (String × Value)}
    (hwhole : ∀ e ∈ es, Text.isTorn e.1 = false)
    (h : ∀ e ∈ es, e.1 ∈ (schema n).fields.map (·.wire)) :
    strangers schema n (textKeyed es) = [] := by
  have untorn : isTornRecord schema n (textKeyed es) = false := isTornRecord_eq_false hwhole
  have known : ∀ e ∈ es, e.1 ∈ (spellings schema n (textKeyed es)).filterMap id := by
    intro e he
    obtain ⟨f, hf, hk⟩ := List.mem_map.mp (h e he)
    have hfound := find?_ne_none he
    rw [← hk] at hfound
    refine List.mem_filterMap.mpr ⟨some f.wire, List.mem_map.mpr ⟨f, hf, ?_⟩, hk ▸ rfl⟩
    simp only [spelling?, checkerOf?_map, textKeyed, findAny?_text_keys, Option.isSome_map]
    rw [if_pos (Option.isSome_iff_ne_none.mpr hfound)]
  cases hclosed : (schema n).closed with
  | true => rw [strangers_of_closed hclosed untorn, otherKeys_eq_nil.mpr known]
  | false => simp [strangers, untorn, hclosed]

theorem isTornRecord_eq (name : ν) (es : List (Value × Value)) :
    ((schema name).closed && (es.map fun e => (e.1, e.2.checker schema)).any (isTornKey ·.1)) =
      isTornRecord schema name es := by
  simp [isTornRecord, Function.comp_def]

/-- A key with halves of pairs is all that is said of a closed model. -/
theorem checkFields_of_isTornRecord {levels : Nat} {name : ν} {es : List (Value × Value)}
    (h : isTornRecord schema name es = true) :
    checkFields schema levels name (es.map fun e => (e.1, e.2.checker schema)) =
      fail .undecodableText := by
  simp only [checkFields, isTornRecord_eq, h, if_true]

/-- The outcome of a model in terms of its fields, if it is no closed one with a key that has halves
of pairs. -/
theorem checkFields_eq {name : ν} {es : List (Value × Value)}
    (h : isTornRecord schema name es = false) (levels : Nat) :
    checkFields schema levels name (es.map fun e => (e.1, e.2.checker schema)) =
      match collect ((schema name).fields.map (fieldOutcome schema levels es)),
        strangers schema name es with
      | .ok values, [] =>
        match (schema name).rule.bind (ruleFault? schema · (instanceOf schema name es values)) with
        | some fault => fail (.invalid fault)
        | none => .ok (instanceOf schema name es values)
      | .ok _, others => .error others
      | .error issues, others => .error (issues ++ others) := by
  have fields : checkField levels (es.map fun e => (e.1, e.2.checker schema)) =
      fieldOutcome schema levels es := funext (checkField_eq levels es)
  simp only [checkFields, fields, isTornRecord_eq, h, strangers, Bool.false_eq_true, if_false]
  rfl

theorem checkFields_eq_ok {levels : Nat} {name : ν} {es : List (Value × Value)} {i : Instance ν} :
    checkFields schema levels name (es.map fun e => (e.1, e.2.checker schema)) = .ok i ↔
      ∃ values,
        List.Forall₂ (fun f v => fieldOutcome schema levels es f = .ok v) (schema name).fields
          values ∧
        strangers schema name es = [] ∧
        (schema name).rule.bind (ruleFault? schema · (instanceOf schema name es values)) = none ∧
        i = instanceOf schema name es values := by
  cases htorn : isTornRecord schema name es with
  | true =>
    rw [checkFields_of_isTornRecord htorn, strangers_of_isTornRecord htorn]
    simp [fail]
  | false =>
    rw [checkFields_eq htorn]
    simp only [← collect_map_eq_ok]
    cases collect ((schema name).fields.map (fieldOutcome schema levels es)) with
    | error issues => simp
    | ok values =>
      cases hs : strangers schema name es with
      | cons o os => simp
      | nil =>
        cases hr : (schema name).rule.bind (ruleFault?
          schema · (instanceOf schema name es values)) with
        | some fault =>
          simp only [Except.ok.injEq, true_and, exists_eq_left', hr, reduceCtorEq,
            false_and, iff_false]
          exact fail_ne_ok
        | none => simp [hr, eq_comm]

theorem checkModel_eq_ok {levels : Nat} {name : ν} {cs : List (Value × Checker ν)}
    {i : Instance ν} : checkModel schema levels name cs = .ok i ↔
      (schema name).level ≤ levels ∧
        checkFields schema (levels - (schema name).level) name cs = .ok i := by
  unfold checkModel
  by_cases h : levels < (schema name).level
  · simp only [h, if_true]
    constructor
    · intro hf
      exact absurd hf fail_ne_ok
    · rintro ⟨hl, -⟩
      omega
  · simp [h, show (schema name).level ≤ levels by omega]

theorem mem_of_findAny? {key : String} {es : List (Value × Value)} {v : Value}
    (h : findAny? key es = some v) : (.str key, v) ∈ es := by
  induction es with
  | nil => simp [findAny?] at h
  | cons e es ih =>
    obtain ⟨k, w⟩ := e
    cases k with
    | str s =>
      by_cases hk : s = key
      · simp_all [findAny?]
      · simp only [findAny?, hk, if_false] at h
        simp [ih h]
    | _ => simpa [findAny?] using ih (by simpa [findAny?] using h)

/-- A field that comes to an instance has it from some entry or from its fallback. -/
theorem fieldOutcome_eq_ok {levels : Nat} {es : List (Value × Value)} {f : Field ν}
    {i : Instance ν} (h : fieldOutcome schema levels es f = .ok i) :
    (∃ e ∈ es, e.2.checker schema (levels - f.level) f.shape = .ok i) ∨
      ∃ d, f.fallback = some d ∧ i = .ofValue d := by
  unfold fieldOutcome at h
  split at h
  case h_1 v hv => exact .inl ⟨_, mem_of_findAny? hv, under_eq_ok.mp h⟩
  case h_2 =>
    split at h
    case h_1 v hv => exact .inl ⟨_, mem_of_findAny? hv, under_eq_ok.mp h⟩
    case h_2 =>
      split at h
      case h_1 d hd => exact .inr ⟨d, hd, by simpa using h.symm⟩
      case h_2 => simp at h

theorem exists_zip_of_mem {α β : Type} {as : List α} {bs : List β} (h : as.length = bs.length)
    {a : α} (ha : a ∈ as) : ∃ b, (a, b) ∈ as.zip bs := by
  rw [← List.map_fst_zip (Nat.le_of_eq h)] at ha
  obtain ⟨⟨_, b⟩, hab, rfl⟩ := List.mem_map.mp ha
  exact ⟨b, hab⟩

theorem exists_zip_of_mem_right {α β : Type} {as : List α} {bs : List β}
    (h : as.length = bs.length) {b : β} (hb : b ∈ bs) : ∃ a, (a, b) ∈ as.zip bs := by
  rw [← List.map_snd_zip (Nat.le_of_eq h.symm)] at hb
  obtain ⟨⟨a, _⟩, hab, rfl⟩ := List.mem_map.mp hb
  exact ⟨a, hab⟩

theorem forall₂_set {α β : Type} {R : α → β → Prop} {as : List α} {bs : List β} {a : α} {b : β}
    (h : List.Forall₂ R as bs) (hab : R a b) (n : Nat) :
      List.Forall₂ R (as.set n a) (bs.set n b) := by
  induction h generalizing n with
  | nil => exact .nil
  | cons hr hrest ih =>
    cases n with
    | zero => exact .cons hab hrest
    | succ n => exact .cons hr (ih n)

/-- Fields that differ in a key are found by it. -/
theorem find?_zip {key : Field ν → String} {fs : List (Field ν)} {vs : List (Instance ν)}
    {f : Field ν} {v : Instance ν} (hn : (fs.map key).Nodup) (h : (f, v) ∈ fs.zip vs) :
    (fs.zip vs).find? (key ·.1 == key f) = some (f, v) := by
  induction fs generalizing vs with
  | nil => simp at h
  | cons g fs ih =>
    cases vs with
    | nil => simp at h
    | cons w vs =>
      simp only [List.map_cons, List.nodup_cons] at hn
      simp only [List.zip_cons_cons, List.mem_cons] at h ⊢
      rcases h with h | h
      · obtain ⟨rfl, rfl⟩ := Prod.mk.inj h
        simp
      · have hg : (key g == key f) = false := by
          simp only [beq_eq_false_iff_ne, ne_eq]
          intro he
          exact hn.1 (he ▸ List.mem_map_of_mem (List.of_mem_zip h).1)
        rw [List.find?_cons_of_neg (by simp [hg])]
        exact ih hn.2 h

end Shape

namespace Instance

/-- A model's field is found under its name. -/
theorem field_model {name : ν} {given : List Bool} {values : List (Instance ν)} {f : Field ν}
    {v : Instance ν} (hn : ((schema name).fields.map (·.name)).Nodup)
    (h : (f, v) ∈ (schema name).fields.zip values) :
    (model name given values).field schema f.name = v := by
  simp [field, Shape.find?_zip hn h]

/-- A mapping that fits a model has in each field what comes of it. -/
theorem fieldOutcome_of_checker {l : Nat} {n : ν} {es : List (String × Value)} {i : Instance ν}
    {f : Field ν} (hn : ((schema n).fields.map (·.name)).Nodup)
    (h : (Value.obj es).checker schema l (.model n) = .ok i) (hf : f ∈ (schema n).fields) :
    Shape.fieldOutcome schema (l - (schema n).level) (Shape.textKeyed es) f =
      .ok (i.field schema f.name) := by
  rw [Shape.checker_obj_model, Shape.checkModel_eq_ok] at h
  obtain ⟨values, hvalues, -, -, rfl⟩ := Shape.checkFields_eq_ok.mp h.2
  obtain ⟨u, hu⟩ := Shape.exists_zip_of_mem hvalues.length_eq hf
  rw [Shape.instanceOf, field_model hn hu]
  exact List.forall₂_zip hvalues hu

/-- A field of a mapping that fits a model comes of the entry at its key. -/
theorem field_of_checker {l : Nat} {n : ν} {es : List (String × Value)} {i : Instance ν}
    {f : Field ν} {v : Value} (hn : ((schema n).fields.map (·.name)).Nodup)
    (h : (Value.obj es).checker schema l (.model n) = .ok i) (hf : f ∈ (schema n).fields)
    (hv : Value.find? f.wire es = some v) :
    v.checker schema (l - (schema n).level - f.level) f.shape = .ok (i.field schema f.name) := by
  have ho := fieldOutcome_of_checker hn h hf
  rw [Shape.fieldOutcome, Shape.textKeyed, Value.findAny?_text_keys, hv] at ho
  exact Checked.under_eq_ok.mp ho

/-- What is no field of a model is null. -/
theorem field_model_of_ne {n : ν} {given : List Bool} {values : List (Instance ν)} {name : String}
    (h : ∀ f ∈ (schema n).fields, f.name ≠ name) :
    (model n given values).field schema name = .plain .null := by
  have none_found : ((schema n).fields.zip values).find? (·.1.name == name) = none := by
    rw [List.find?_eq_none]
    intro p hp
    simpa using h p.1 (List.of_mem_zip hp).1
  simp [field, none_found]

end Instance
end SchemaIntents
