import SchemaIntents.Proofs.Draft.Entity

/-! The indexes of a new entity. Each field that asks for an index and has none of its own gets one,
and so does each reference where that is wanted; nothing gets a second one. -/
namespace SchemaIntents.Resolved

open Shape

/-- The constraints that an author declares: groups that are unique, and indexes. -/
def declaredConstraints (i : Intent.AddEntity) : List Constraint :=
  i.unique.map .unique ++ i.indexes.map fun x => .index x.fields (some x.unique) x.name x.type

/-- The names among some that no index of constraints covers alone. -/
def bareOf (constraints : List Constraint) (names : List String) : List String :=
  names.filter fun name => !constraints.any (Constraint.indexes name)

/-- No field has two indexes of its own. -/
def HasNoTwins (constraints : List Constraint) : Prop :=
  ∀ name, constraints.countP (Constraint.indexes name) ≤ 1

section Indexes

variable {constraints : List Constraint} {names : List String} {name : String}

theorem indexes_plainIndex (name field : String) :
    Constraint.indexes name (.plainIndex field) = decide (field = name) := by
  simp [Constraint.plainIndex, Constraint.indexes]

/-- A new index covers none of the names that are different from its own. -/
theorem bareOf_append_plainIndex (h : name ∉ names) :
    bareOf (constraints ++ [.plainIndex name]) names = bareOf constraints names := by
  refine List.filter_congr fun other hmem => ?_
  have hne : name ≠ other := fun heq => h (heq ▸ hmem)
  simp [indexes_plainIndex, hne]

/-- Names that are all different get their indexes, and the notes about them, independently of each
other. -/
theorem withNotedIndexes_eq (hn : names.Nodup) :
    withNotedIndexes constraints names =
      ((bareOf constraints names).map indexNote,
        constraints ++ (bareOf constraints names).map Constraint.plainIndex) := by
  induction names generalizing constraints with
  | nil => simp [withNotedIndexes, bareOf]
  | cons field rest ih =>
    obtain ⟨hfresh, hrest⟩ := List.nodup_cons.mp hn
    rw [withNotedIndexes, bareOf, List.filter_cons]
    by_cases hcovered : constraints.any (Constraint.indexes field) = true
    · rw [if_pos hcovered, ih hrest]
      simp [hcovered, bareOf]
    · rw [if_neg hcovered, ih hrest, bareOf_append_plainIndex hfresh]
      simp [hcovered, bareOf]

theorem withIndexes_eq (hn : names.Nodup) :
    withIndexes constraints names =
      constraints ++ (bareOf constraints names).map Constraint.plainIndex := by
  rw [← withNotedIndexes_snd, withNotedIndexes_eq hn]

theorem any_indexes_append_bareOf (h : name ∈ names) :
    (constraints ++ (bareOf constraints names).map Constraint.plainIndex).any
      (Constraint.indexes name) = true := by
  rw [List.any_append, Bool.or_eq_true]
  by_cases hcovered : constraints.any (Constraint.indexes name) = true
  · exact .inl hcovered
  · have hbare : name ∈ bareOf constraints names := List.mem_filter.mpr ⟨h, by simpa using hcovered⟩
    exact .inr (List.any_eq_true.mpr
      ⟨_, List.mem_map_of_mem hbare, by simp [indexes_plainIndex]⟩)

/-- Where no field has two indexes, none has two after those that had none got one. -/
theorem hasNoTwins_append_bareOf (hn : names.Nodup) (h : HasNoTwins constraints) :
    HasNoTwins (constraints ++ (bareOf constraints names).map Constraint.plainIndex) := by
  intro name
  have hadded : ((bareOf constraints names).map Constraint.plainIndex).countP
      (Constraint.indexes name) = (bareOf constraints names).count name := by
    rw [List.countP_map, List.count]
    refine List.countP_congr fun field _ => ?_
    simp [indexes_plainIndex]
  rw [List.countP_append, hadded]
  by_cases hbare : name ∈ bareOf constraints names
  · have hnone : constraints.countP (Constraint.indexes name) = 0 := by
      rw [List.countP_eq_zero]
      simpa using (List.mem_filter.mp hbare).2
    have honce : (bareOf constraints names).count name ≤ 1 :=
      List.nodup_iff_count.mp (hn.filter _) name
    rw [hnone, Nat.zero_add]
    exact honce
  · rw [List.count_eq_zero_of_not_mem hbare]
    exact h name

end Indexes

section AddEntity

variable {i : Intent.AddEntity}

theorem authoredConstraints_eq (hn : (i.fields.map (·.name)).Nodup) :
    authoredConstraints i = declaredConstraints i ++
      (bareOf (declaredConstraints i) ((i.fields.filter (·.has ["indexed"])).map (·.name))).map
        Constraint.plainIndex :=
  withIndexes_eq (hn.sublist (List.filter_sublist.map _))

theorem hasNoTwins_declaredConstraints
    (h : ∀ name, i.indexes.countP (fun x => x.fields = [name]) ≤ 1) :
    HasNoTwins (declaredConstraints i) := by
  intro name
  have hgroups : (i.unique.map Constraint.unique).countP (Constraint.indexes name) = 0 := by
    rw [List.countP_eq_zero]
    simp [Constraint.indexes]
  rw [declaredConstraints, List.countP_append, hgroups, Nat.zero_add, List.countP_map]
  exact h name

end AddEntity

section Reading

variable {l : Nat} {n : Ir.Name} {q : Ir.Part} {k : Constraint} {es : List (String × Value)}

/-- A constraint as an envelope has it. A group that is unique has no name. -/
def Constraint.ofPart (q : Ir.Part) : Constraint :=
  if q.kind = "Unique" ∧ (q.get "name").isNull = true then .unique (q.texts "fields")
  else .index (q.texts "fields") (q.get "unique").flag? (q.get "name").text? (q.get "type").text?

/-- What may be absent is read as it was written, if its shape takes it as it stands. -/
theorem get_of_payload {α : Type} {write : α → Value} {name : String}
    {s : Shape Ir.Name} {t : Option α} (h : (Value.obj es).checker Ir.schema l (.model n) = .ok q)
    (hf : .maybe name name s ∈ (Ir.schema n).fields) (ht : Value.find? name es = t.map write)
    (hs : ∀ {l a i}, (write a).checker Ir.schema l (.optional s) = .ok i → i = .plain (write a)) :
    q.get name = .plain ((t.map write).getD .null) := by
  rw [Ir.Part.get]
  rcases Instance.field_of_maybe name name s (Ir.names_nodup _) h hf id with ⟨v, hv,
    hc⟩ | ⟨hnone, hfield⟩
  · obtain ⟨a, rfl, rfl⟩ := Option.map_eq_some_iff.mp (ht.symm.trans hv)
    exact hs hc
  · rw [hfield, Option.map_eq_none_iff.mp (ht.symm.trans hnone)]
    rfl

theorem text?_of_payload {name : String} {t : Option String}
    (h : (Value.obj es).checker Ir.schema l (.model n) = .ok q)
    (hf : .maybe name name .anyText ∈ (Ir.schema n).fields)
    (ht : Value.find? name es = t.map .str) : (q.get name).text? = t := by
  rw [get_of_payload h hf ht fun {l a i} hc => ?_]
  · cases t <;> rfl
  · rw [checker_optional (by simp), Shape.anyText, checker_text] at hc
    obtain ⟨b, hb, -, hi⟩ := readWith_eq_ok.mp hc
    rw [hi, ← Except.ok.inj hb]

theorem flag?_of_payload {name : String} {t : Option Bool}
    (h : (Value.obj es).checker Ir.schema l (.model n) = .ok q)
    (hf : .maybe name name .flag ∈ (Ir.schema n).fields)
    (ht : Value.find? name es = t.map .bool) : (q.get name).flag? = t := by
  rw [get_of_payload h hf ht fun {l a i} hc => (Except.ok.inj hc).symm]
  cases t <;> rfl

theorem ofPart_of_checker (h : k.toValue.checker Ir.schema l Ir.constraint = .ok q) :
    Constraint.ofPart q = k := by
  have hfields := texts_constraint h
  cases k with
  | unique fields =>
    have hm := model_of_tagged (n := .uniqueConstraint) rfl rfl h
    have hkind := Draft.kind_of_payload hm (by simp [Ir.schema, Ir.uniqueConstraint]) rfl
    have hname : q.get "name" = .plain .null :=
      Instance.field_of_absent (f := .maybe "name" "name" .anyText) (Ir.names_nodup _) hm
        (by simp [Ir.schema, Ir.uniqueConstraint]) rfl rfl rfl
    rw [Constraint.ofPart, if_pos ⟨hkind, by rw [hname]; rfl⟩, hfields]
    rfl
  | index fields distinct name type =>
    have hm := model_of_tagged (n := .indexConstraint) rfl rfl h
    have hkind := Draft.kind_of_payload hm (by simp [Ir.schema, Ir.indexConstraint]) rfl
    rw [Constraint.ofPart, if_neg (by simp [hkind]), hfields,
      flag?_of_payload (t := distinct) hm (by simp [Ir.schema, Ir.indexConstraint]) (by simp),
      text?_of_payload (t := name) hm (by simp [Ir.schema, Ir.indexConstraint]) (by simp),
      text?_of_payload (t := type) hm (by simp [Ir.schema, Ir.indexConstraint]) (by simp)]
    rfl

end Reading

end SchemaIntents.Resolved
