import SchemaIntents.Proofs.Resolved.Soundness
import SchemaIntents.Resolved.Entity

/-! Entities that are resolved without an error: every field is there under a name of its own, the
primary ones can be a key, and whatever refers to fields refers to some of them. -/
namespace SchemaIntents.Resolved

open Intent (AuthoredField)
open Shape (exists_left_of_forall₂)

section Errors

theorem filter_isError_of_any {ds : List Diagnostic} (h : ds.any Diagnostic.isError = false) :
    ds.filter Diagnostic.isError = [] := by
  simpa using h

theorem any_reservedWarning (label name path : String) :
    (reservedWarning label name path).any Diagnostic.isError = false := by
  unfold reservedWarning
  split <;> simp [Diagnostic.isError]

end Errors

section Fields

variable {checks : FieldChecks} {owner root : String} {seen : List String} {position : Nat}
  {fs : List AuthoredField}

/-- Where names that occur again are errors and no error comes up, all names are different. -/
theorem distinct_resolveFrom (hd : checks.duplicates = true)
    (h : (resolveFrom checks owner root seen position fs).1.any Diagnostic.isError = false) :
    (fs.map (·.name)).Nodup ∧ ∀ n ∈ fs.map (·.name), n ∉ seen := by
  induction fs generalizing seen position with
  | nil => simp
  | cons f fs ih =>
    obtain ⟨hnew, -, hrest⟩ := resolveFrom_cons h
    obtain ⟨hnodup, hlater⟩ := ih hrest
    simp only [List.map_cons, List.nodup_cons, List.forall_mem_cons]
    refine ⟨⟨fun hf => ?_, hnodup⟩, hnew hd, fun n hn hseen => ?_⟩
    · exact hlater f.name hf List.mem_cons_self
    · exact hlater n hn (List.mem_cons_of_mem _ hseen)

end Fields

section Primary

variable {authored : List AuthoredField}

/-- What being a primary key changes of a field. -/
theorem asPrimary_cases (f : AuthoredField) (r : Field) :
    r.asPrimary f = { r with
      primary := true, nullable := false, generated := some .autoIncrement, default := none } ∨
      r.default = none ∧
        r.asPrimary f = { r with primary := true, nullable := false, generated := some .uuid } ∨
      r.asPrimary f = { r with primary := true, nullable := false } := by
  by_cases hcounting : countsUp f || countingWords.contains (Text.normalize f.type)
  · exact .inl (by simp only [Field.asPrimary, hcounting, if_true])
  by_cases huuid : decide (Text.normalize f.type = "uuid") && r.default.isNone
  · have hdefault : r.default = none := by simpa using (Bool.and_eq_true_iff.mp huuid).2
    exact .inr (.inl ⟨hdefault, by simp only [Field.asPrimary, hcounting, huuid, if_true, if_false,
      Bool.false_eq_true]⟩)
  · refine .inr (.inr ?_)
    simp only [Field.asPrimary, hcounting, huuid, if_false, Bool.false_eq_true]

@[simp] theorem name_asPrimary (f : AuthoredField) (r : Field) : (r.asPrimary f).name = r.name := by
  rcases asPrimary_cases f r with h | ⟨-, h⟩ | h <;> rw [h]

@[simp] theorem type_asPrimary (f : AuthoredField) (r : Field) : (r.asPrimary f).type = r.type := by
  rcases asPrimary_cases f r with h | ⟨-, h⟩ | h <;> rw [h]

@[simp] theorem name_markPrimary (r : Field) : (markPrimary authored r).name = r.name := by
  unfold markPrimary
  split
  · split <;> simp
  · rfl

@[simp] theorem type_markPrimary (r : Field) : (markPrimary authored r).type = r.type := by
  unfold markPrimary
  split
  · split <;> simp
  · rfl

/-- The first field of a name is the one that is found. -/
theorem authoredOf?_of_new {f : AuthoredField} {k : Nat} (hf : authored[k]? = some f)
    (hnew : f.name ∉ (authored.take k).map (·.name)) :
      authoredOf? authored f.name = some (f, k) := by
  obtain ⟨hk, hget⟩ := List.getElem?_eq_some_iff.mp hf
  rw [authoredOf?, List.find?_eq_some_iff_getElem]
  refine ⟨by simp, k, by simpa using hk, by simp [hget], fun j hj => ?_⟩
  have hbefore : authored[j] ∈ authored.take k := List.mem_take_iff_getElem.mpr ⟨j, by omega, rfl⟩
  have hne : authored[j].name ≠ f.name := fun he => hnew (he ▸ List.mem_map_of_mem hbefore)
  simpa using hne

/-- Among fields with different names, the first of a name is the only one. -/
theorem authoredOf?_eq_some (hn : (authored.map (·.name)).Nodup) {f : AuthoredField} {k : Nat}
    (hf : authored[k]? = some f) : authoredOf? authored f.name = some (f, k) := by
  refine authoredOf?_of_new hf ?_
  have hlater : f.name ∈ (authored.map (·.name)).drop k :=
    List.mem_of_getElem? (i := 0) (by simp [hf])
  rw [List.map_take]
  exact fun hbefore => List.disjoint_take_drop hn (Nat.le_refl k) hbefore hlater

/-- A primary field is never empty, and has no default besides a value of its own. -/
def Field.FitsKey (r : Field) : Prop :=
  r.nullable = false ∧
    (r.default = none ∨ r.generated ≠ some .autoIncrement ∧ r.generated ≠ some .uuid)

theorem fitsKey_asPrimary (f : AuthoredField) (t : FieldType) :
    ((Field.ofAuthored f t).asPrimary f).FitsKey := by
  have generated : (Field.ofAuthored f t).generated ≠ some .autoIncrement ∧
      (Field.ofAuthored f t).generated ≠ some .uuid := by
    simp only [Field.ofAuthored]
    split <;> simp
  rcases asPrimary_cases f (Field.ofAuthored f t) with h | ⟨hdefault, h⟩ | h
  · rw [h]
    exact ⟨rfl, .inl rfl⟩
  · rw [h]
    exact ⟨rfl, .inl hdefault⟩
  · rw [h]
    exact ⟨rfl, .inr generated⟩

/-- What is marked as primary fits a key. -/
theorem fitsKey_markPrimary {f : AuthoredField} {t : FieldType}
    (hn : (authored.map (·.name)).Nodup) (hf : f ∈ authored)
    (hp : (markPrimary authored (Field.ofAuthored f t)).primary = true) :
    (markPrimary authored (Field.ofAuthored f t)).FitsKey := by
  obtain ⟨k, hk⟩ := List.mem_iff_getElem?.mp hf
  have hfound : authoredOf? authored (Field.ofAuthored f t).name = some (f, k) :=
    authoredOf?_eq_some hn hk
  simp only [markPrimary, hfound] at hp ⊢
  split at hp
  · rename_i hprimary
    rw [if_pos hprimary]
    exact fitsKey_asPrimary f t
  · simp [Field.ofAuthored] at hp

/-- The fields of an entity, with the primary ones marked. -/
def markedFields (i : Intent.AddEntity) : List Field :=
  (resolveFields ⟨true, true⟩ i.entity "$.fields" i.fields).2.map (markPrimary i.fields)

/-- Where no error comes up, the fields are those that are authored, each under a name of its own,
and the primary ones fit a key. -/
theorem markedFields_of_any {i : Intent.AddEntity}
    (h :
      (resolveFields ⟨true, true⟩ i.entity "$.fields" i.fields).1.any Diagnostic.isError = false) :
    (markedFields i).map (·.name) = i.fields.map (·.name) ∧ (i.fields.map (·.name)).Nodup ∧
      ∀ r ∈ markedFields i, r.primary = true → r.FitsKey := by
  have hresolved := forall₂_resolveFrom h
  have hn := (distinct_resolveFrom rfl h).1
  rw [markedFields, resolveFields]
  refine ⟨?_, hn, fun r hr hp => ?_⟩
  · symm
    rw [List.map_map, ← List.forall₂_eq_eq_eq, List.forall₂_map_left_iff,
      List.forall₂_map_right_iff]
    refine hresolved.imp ?_
    rintro f r ⟨t, -, rfl⟩
    exact (name_markPrimary (Field.ofAuthored f t)).symm
  · obtain ⟨q, hq, rfl⟩ := List.mem_map.mp hr
    obtain ⟨f, hf, t, -, rfl⟩ := exists_left_of_forall₂ hresolved hq
    exact fitsKey_markPrimary hn hf hp

/-- What is noted about the primary key: the position of its first field. -/
theorem primaryNote_eq {fields : List Field} (hn : (authored.map (·.name)).Nodup)
    (hnames : fields.map (·.name) = authored.map (·.name))
    (hp : (fields.filter (·.primary)).map (·.name) ≠ []) :
    primaryNote authored fields = [⟨"IR001", .info,
      "Inferred primary key '" ++ ((fields.filter (·.primary)).map (·.name)).headD "" ++ "'",
      s!"$.fields[{fields.findIdx (·.primary)}]"⟩] := by
  cases hfind : fields.find? (·.primary) with
  | none =>
    rw [List.find?_eq_none] at hfind
    exact absurd (by simpa using hfind) hp
  | some r =>
    obtain ⟨hprimary, k, hk, hr, hbefore⟩ := List.find?_eq_some_iff_getElem.mp hfind
    have hindex : fields.findIdx (·.primary) = k :=
      (List.findIdx_eq hk).mpr ⟨hr ▸ hprimary, fun j hj => by simpa using hbefore j hj⟩
    have hk' : k < authored.length := by
      have hlength := congrArg List.length hnames
      simp only [List.length_map] at hlength
      omega
    have hname : authored[k].name = r.name := by
      have hget : (fields.map (·.name))[k]? = (authored.map (·.name))[k]? := by rw [hnames]
      simpa [hk, hk', hr] using hget.symm
    have hfound := authoredOf?_eq_some hn (List.getElem?_eq_getElem hk')
    rw [hname] at hfound
    simp [primaryNote, hfind, hfound, hindex]

end Primary

section References

/-- The fields that a constraint is on. -/
def Constraint.fields : Constraint → List String
  | unique fields => fields
  | index fields _ _ _ => fields

theorem exists_mem_zipIdx {α : Type} {as : List α} {a : α} (h : a ∈ as) :
    ∃ k, (a, k) ∈ as.zipIdx := by
  obtain ⟨k, hk⟩ := List.mem_iff_getElem?.mp h
  exact ⟨k, List.mk_mem_zipIdx_iff_getElem?.mpr hk⟩

@[simp] theorem unknownFields_any {known names : List String} {path : String}
    {what : String → String} :
    (unknownFields known path what names).any Diagnostic.isError = false ↔
      ∀ n ∈ names, n ∈ known := by
  simp [unknownFields, Diagnostic.isError]

theorem any_flatMap_eq_false {α β : Type} {as : List α} {f : α → List β} {p : β → Bool} :
    (as.flatMap f).any p = false ↔ ∀ a ∈ as, (f a).any p = false := by
  simp only [List.any_flatMap, List.any_eq_false, Bool.not_eq_true]

/-- Where no error comes up, all that refers to fields refers to some of the entity. -/
theorem referenceErrors_any {i : Intent.AddEntity}
    (h : (referenceErrors i).any Diagnostic.isError = false) :
    (∀ group ∈ i.unique, ∀ n ∈ group, n ∈ i.fields.map (·.name)) ∧
      (∀ x ∈ i.indexes, ∀ n ∈ x.fields, n ∈ i.fields.map (·.name)) ∧
      (∀ column, i.tenantColumn = some column → column ∈ i.fields.map (·.name)) ∧
      ∀ s, i.seed = some s → ∀ g ∈ s.generators, g.1 ∈ i.fields.map (·.name) := by
  simp only [referenceErrors, List.any_append, Bool.or_eq_false_iff, any_flatMap_eq_false,
    unknownFields_any] at h
  obtain ⟨⟨⟨hunique, hindexes⟩, htenant⟩, hseed⟩ := h
  refine ⟨fun group hg => ?_, fun x hx => ?_, fun column hc => ?_, fun s hs g hg => ?_⟩
  · obtain ⟨k, hk⟩ := exists_mem_zipIdx hg
    exact hunique _ hk
  · obtain ⟨k, hk⟩ := exists_mem_zipIdx hx
    exact hindexes _ hk
  · simp only [tenantError, hc, unknownFields_any] at htenant
    exact htenant column List.mem_cons_self
  · simp only [seedErrors, hs, any_flatMap_eq_false, unknownFields_any] at hseed
    exact hseed g.1 (List.mem_map_of_mem hg) g.1 List.mem_cons_self

theorem mem_withIndexes {k : Constraint} {constraints : List Constraint} {names : List String}
    (h : k ∈ withIndexes constraints names) :
    k ∈ constraints ∨ ∃ n ∈ names, k = .plainIndex n := by
  induction names generalizing constraints with
  | nil => exact .inl h
  | cons n names ih =>
    simp only [withIndexes] at h
    split at h
    · rcases ih h with hk | ⟨m, hm, rfl⟩
      · exact .inl hk
      · exact .inr ⟨m, List.mem_cons_of_mem _ hm, rfl⟩
    · rcases ih h with hk | ⟨m, hm, rfl⟩
      · rcases List.mem_append.mp hk with hk | hk
        · exact .inl hk
        · exact .inr ⟨n, List.mem_cons_self, List.mem_singleton.mp hk⟩
      · exact .inr ⟨m, List.mem_cons_of_mem _ hm, rfl⟩

theorem mem_withIndexes_of_mem {k : Constraint} {constraints : List Constraint}
    (names : List String) (h : k ∈ constraints) : k ∈ withIndexes constraints names := by
  induction names generalizing constraints with
  | nil => exact h
  | cons n names ih =>
    rw [withIndexes]
    split
    · exact ih h
    · exact ih (List.mem_append_left _ h)

/-- Where each index is noted as it is added, the constraints are those without the notes. -/
theorem withNotedIndexes_snd (constraints : List Constraint) (names : List String) :
    (withNotedIndexes constraints names).2 = withIndexes constraints names := by
  induction names generalizing constraints with
  | nil => rfl
  | cons n names ih =>
    rw [withNotedIndexes, withIndexes]
    split <;> exact ih _

theorem mem_withNotedIndexes_fst {d : Diagnostic} {constraints : List Constraint}
    {names : List String}
    (h : d ∈ (withNotedIndexes constraints names).1) : ∃ n ∈ names, d = indexNote n := by
  induction names generalizing constraints with
  | nil => exact absurd h List.not_mem_nil
  | cons n names ih =>
    have later {constraints : List Constraint} (h : d ∈ (withNotedIndexes constraints names).1) :
        ∃ m ∈ n :: names, d = indexNote m := by
      obtain ⟨m, hm, hd⟩ := ih h
      exact ⟨m, List.mem_cons_of_mem _ hm, hd⟩
    rw [withNotedIndexes] at h
    split at h
    · exact later h
    · rcases List.mem_cons.mp h with hd | hd
      · exact ⟨n, List.mem_cons_self, hd⟩
      · exact later hd

section Constraints

variable {i : Intent.AddEntity} {fields : List Field} {auto : Bool} {k : Constraint}

theorem constraints_snd (auto : Bool) (i : Intent.AddEntity) (fields : List Field) :
    (constraints auto i fields).2 =
      withIndexes (authoredConstraints i) (if auto then referenceNames fields else []) := by
  cases auto with
  | true => exact withNotedIndexes_snd _ _
  | false => rfl

/-- All that is noted about the constraints of an entity are indexes over references. -/
theorem mem_constraints_fst {d : Diagnostic} (h : d ∈ (constraints auto i fields).1) :
    ∃ n ∈ referenceNames fields, d = indexNote n := by
  cases auto with
  | true => exact mem_withNotedIndexes_fst h
  | false => exact absurd h List.not_mem_nil

/-- A constraint of an entity is one that its author asks for, or an index over one field. -/
theorem constraints_cases (hk : k ∈ (constraints auto i fields).2) :
    (∃ group ∈ i.unique, k = .unique group) ∨
      (∃ x ∈ i.indexes, k = .index x.fields (some x.unique) x.name x.type) ∨
      ∃ n ∈ i.fields.map (·.name) ++ fields.map (·.name), k = .plainIndex n := by
  rw [constraints_snd] at hk
  rcases mem_withIndexes hk with hk | ⟨n, hn, rfl⟩
  · rcases mem_withIndexes hk with hk | ⟨n, hn, rfl⟩
    · rcases List.mem_append.mp hk with hk | hk
      · obtain ⟨group, hg, rfl⟩ := List.mem_map.mp hk
        exact .inl ⟨group, hg, rfl⟩
      · obtain ⟨x, hx, rfl⟩ := List.mem_map.mp hk
        exact .inr (.inl ⟨x, hx, rfl⟩)
    · have hname := (List.filter_sublist.map _).subset hn
      exact .inr (.inr ⟨n, List.mem_append_left _ hname, rfl⟩)
  · have hname : n ∈ fields.map (·.name) := by
      split at hn
      · exact (List.filter_sublist.map _).subset hn
      · exact absurd hn List.not_mem_nil
    exact .inr (.inr ⟨n, List.mem_append_right _ hname, rfl⟩)

theorem unique_mem_constraints {group : List String} (h : group ∈ i.unique) :
    .unique group ∈ (constraints auto i fields).2 := by
  have authored : .unique group ∈ authoredConstraints i :=
    mem_withIndexes_of_mem _ (List.mem_append_left _ (List.mem_map_of_mem h))
  rw [constraints_snd]
  exact mem_withIndexes_of_mem _ authored

/-- The constraints of an entity are on its own fields, where no reference is an error. -/
theorem mem_constraints (h : (referenceErrors i).any Diagnostic.isError = false)
    (hf : ∀ r ∈ fields, r.name ∈ i.fields.map (·.name))
    (hk : k ∈ (constraints auto i fields).2) : ∀ n ∈ k.fields, n ∈ i.fields.map (·.name) := by
  obtain ⟨hunique, hindexes, -, -⟩ := referenceErrors_any h
  rcases constraints_cases hk with ⟨group, hg, rfl⟩ | ⟨x, hx, rfl⟩ | ⟨n, hn, rfl⟩
  · exact hunique group hg
  · exact hindexes x hx
  · intro m hm
    obtain rfl := List.mem_singleton.mp hm
    rcases List.mem_append.mp hn with hn | hn
    · exact hn
    · obtain ⟨r, hr, rfl⟩ := List.mem_map.mp hn
      exact hf r hr

end Constraints

end References

end SchemaIntents.Resolved
