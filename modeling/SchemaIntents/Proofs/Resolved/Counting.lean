import SchemaIntents.Proofs.Intent.Defaults

/-! A default that counts up, spelled in another way. It comes to the same default, but only one
spelling makes the field a primary key. -/
namespace SchemaIntents

open Intent (AuthoredField)

/-- The word that stands for a default that counts up, as keys are told by it. -/
def Intent.countingWord : Value :=
  .str "autoincrement"

/-- A new entity of which one field has the counting word for its default. -/
def Intent.AddEntity.respelled (i : AddEntity) (n : Nat) : AddEntity :=
  { i with fields := i.fields.modify n (·.withDefault countingWord) }

theorem Intent.AddEntity.fields_respelled (i : AddEntity) (n : Nat) :
    (i.respelled n).fields = i.fields.modify n (·.withDefault countingWord) := rfl

namespace Resolved

/-- A field with its default written in another way, which comes to the same default. -/
def SameDefault (f g : AuthoredField) : Prop :=
  ∃ u, g = f.withDefault u ∧ defaultOf g = defaultOf f

/-- A field counts up whatever its default is: its author spells the word as keys are told by it, or
it is a key for another reason and of a type that counts. -/
def CountsUpAnyway (f : AuthoredField) : Prop :=
  countsUp f = true ∨ isPrimary f = true ∧ countingWords.contains (Text.normalize f.type) = true

/-- What comes of a field hangs on the spelling of its default: the field is resolved, and does not
count up anyway. -/
structure HangsOnSpelling (i : Intent.AddEntity) (n : Nat) (f : AuthoredField) : Prop where
  first : f.name ∉ (i.fields.take n).map (·.name)
  typed : ∃ t, typeOf f i.entity = .ok t
  undecided : ¬ CountsUpAnyway f

variable {checks : FieldChecks} {owner root w : String} {seen : List String} {position n : Nat}
  {f g : AuthoredField} {fs gs : List AuthoredField} {t : FieldType} {i i' : Intent.AddEntity}

theorem SameDefault.refl (f : AuthoredField) : SameDefault f f :=
  ⟨f.default, rfl, rfl⟩

theorem SameDefault.ofAuthored_eq (h : SameDefault f g) (t : FieldType) :
    Field.ofAuthored g t = Field.ofAuthored f t := by
  obtain ⟨u, rfl, hdefault⟩ := h
  simp only [Field.ofAuthored, hdefault]
  rfl

theorem SameDefault.resolveField_eq (h : SameDefault f g) (checks : FieldChecks)
    (owner path : String) :
    resolveField checks owner path g = resolveField checks owner path f := by
  have hsame := h.ofAuthored_eq
  obtain ⟨u, rfl, -⟩ := h
  have htype : typeOf (f.withDefault u) owner = typeOf f owner := rfl
  cases ht : typeOf f owner with
  | ok t =>
    rw [resolveField_of_ok ht, resolveField_of_ok (htype.trans ht), hsame]
    rfl
  | error fault =>
    rw [resolveField_of_error ht, resolveField_of_error (htype.trans ht)]
    rfl

/-- Words that come to the default that counts up are the same default. -/
theorem defaultOf_of_counting (hf : f.default = .str w) (hw : Text.normalize w = "autoincrement") :
    defaultOf f = some .autoIncrement := by
  simp [defaultOf, hf, Default.ofValue?, hw]

theorem sameDefault_counting (hf : f.default = .str w) (hw : Text.normalize w = "autoincrement") :
    SameDefault f (f.withDefault Intent.countingWord) := by
  have hword : Text.normalize "autoincrement" = "autoincrement" := by decide +kernel
  exact ⟨_, rfl, (defaultOf_of_counting rfl hword).trans (defaultOf_of_counting hf hw).symm⟩

section Lists

/-- What does not depend on the default of a field stays. -/
theorem map_of_sameDefault {α : Type} {a : AuthoredField → α}
    (ha : ∀ f u, a (f.withDefault u) = a f)
    (h : List.Forall₂ SameDefault fs gs) : gs.map a = fs.map a := by
  induction h with
  | nil => rfl
  | cons hfg _ ih =>
    obtain ⟨u, rfl, -⟩ := hfg
    rw [List.map_cons, List.map_cons, ha, ih]

/-- Fields are resolved by what their defaults come to. -/
theorem resolveFrom_congr (h : List.Forall₂ SameDefault fs gs) :
    resolveFrom checks owner root seen position gs =
      resolveFrom checks owner root seen position fs := by
  induction h generalizing seen position with
  | nil => rfl
  | cons hfg _ ih =>
    have hfield := hfg.resolveField_eq checks owner (root ++ s!"[{position}]")
    obtain ⟨u, rfl, -⟩ := hfg
    simp only [resolveFrom, hfield, ih]
    rfl

theorem misuseFrom?_congr (h : List.Forall₂ SameDefault fs gs) :
    misuseFrom? checks owner seen gs = misuseFrom? checks owner seen fs := by
  induction h generalizing seen with
  | nil => rfl
  | cons hfg _ ih =>
    obtain ⟨u, rfl, -⟩ := hfg
    simp only [misuseFrom?, ih]
    rfl

/-- A new entity with fields whose defaults are written in another way, and come to the same. -/
def IsRewritten (i i' : Intent.AddEntity) : Prop :=
  ∃ gs, List.Forall₂ SameDefault i.fields gs ∧ i' = { i with fields := gs }

theorem referenceErrors_congr (h : IsRewritten i i') : referenceErrors i' = referenceErrors i := by
  obtain ⟨gs, hgs, rfl⟩ := h
  simp only [referenceErrors, map_of_sameDefault (a := (·.name)) (fun _ _ => rfl) hgs]

/-- The constraints of an entity go by the names and types of its fields. -/
theorem constraints_congr (auto : Bool) {rs rs' : List Field} (h : IsRewritten i i')
    (hrs : rs'.map (fun r => (r.name, r.type)) = rs.map fun r => (r.name, r.type)) :
    constraints auto i' rs' = constraints auto i rs := by
  obtain ⟨gs, hgs, rfl⟩ := h
  have indexed (fs : List AuthoredField) : (fs.filter fun f => f.has ["indexed"]).map (·.name) =
      ((fs.map fun f => (f.name, f.has ["indexed"])).filter (·.2)).map (·.1) := by
    rw [List.filter_map, List.map_map]
    rfl
  have references (rs : List Field) : referenceNames rs =
      ((rs.map fun r => (r.name, r.type)).filter (·.2.isReference)).map (·.1) := by
    rw [List.filter_map, List.map_map]
    rfl
  have hsame : (gs.map fun f => (f.name, f.has ["indexed"])) = i.fields.map fun f =>
      (f.name, f.has ["indexed"]) :=
    map_of_sameDefault (fun _ _ => rfl) hgs
  simp only [constraints, authoredConstraints, indexed, references, hsame, hrs]

theorem resolveFields_congr (h : IsRewritten i i') :
    resolveFields ⟨true, true⟩ i'.entity "$.fields" i'.fields =
      resolveFields ⟨true, true⟩ i.entity "$.fields" i.fields := by
  obtain ⟨gs, hgs, rfl⟩ := h
  exact resolveFrom_congr hgs

/-- The marked fields of an entity have the names and types that they were resolved with. -/
theorem map_markedFields (h : IsRewritten i i') :
    (markedFields i').map (fun r => (r.name, r.type)) =
    (markedFields i).map fun r => (r.name, r.type) := by
  simp [markedFields, resolveFields_congr h]

theorem primaryNote_congr (h : List.Forall₂ SameDefault fs gs) (rs : List Field) :
    primaryNote gs rs = primaryNote fs rs := by
  have position (fs : List AuthoredField) (name : String) : (authoredOf? fs name).map (·.2) =
      ((fs.map (·.name)).zipIdx.find? fun x => x.1 == name).map (·.2) := by
    rw [authoredOf?, List.zipIdx_map, List.find?_map, Option.map_map]
    rfl
  simp only [primaryNote, position, map_of_sameDefault (a := (·.name)) (fun _ _ => rfl) h]

/-- Just those fields are resolved that are the first of their name and have a type. -/
theorem mem_resolveFrom (hd : checks.duplicates = true) {r : Field} :
    r ∈ (resolveFrom checks owner root seen position fs).2 ↔ r.name ∉ seen ∧
      ∃ f t, fs.find? (·.name == r.name) = some f ∧ typeOf f owner = .ok t ∧
        r = Field.ofAuthored f t := by
  induction fs generalizing seen position with
  | nil => simp [resolveFrom]
  | cons g fs ih =>
    by_cases hskip : (checks.duplicates && seen.contains g.name) = true
    · rw [resolveFrom_of_seen hskip, ih]
      have hseen : g.name ∈ seen := by simpa [hd] using hskip
      refine and_congr_right fun hr => ?_
      have hne : g.name ≠ r.name := fun he => hr (he ▸ hseen)
      simp [hne]
    · rw [resolveFrom_of_new hskip, List.mem_append, mem_resolveField, ih]
      have hnew : g.name ∉ seen := by simpa [hd] using hskip
      by_cases hname : g.name = r.name
      · simp [hname, hname ▸ hnew]
      · have hfirst : ¬ ∃ t, typeOf g owner = .ok t ∧ r = Field.ofAuthored g t := by
          rintro ⟨t, -, rfl⟩
          exact hname rfl
        rw [or_iff_right hfirst]
        simp [hname, Ne.symm hname]

end Lists

section Marks

theorem find?_modify_of {name : String} (hf : fs[n]? = some f) (u : Value)
    (h : f.name = name → f.name ∈ (fs.take n).map (·.name)) :
    (fs.modify n (·.withDefault u)).find? (·.name == name) = fs.find? (·.name == name) := by
  obtain ⟨hn, hget⟩ := List.getElem?_eq_some_iff.mp hf
  have hsplit : fs = fs.take n ++ f :: fs.drop (n + 1) := by
    rw [← hget, List.getElem_cons_drop, List.take_append_drop]
  rw [List.modify_eq_take_cons_drop hn, hget]
  conv_rhs => rw [hsplit]
  rw [List.find?_append, List.find?_append]
  by_cases hname : f.name = name
  · obtain ⟨g, hg, hgname⟩ := List.mem_map.mp (h hname)
    have hfound : ((fs.take n).find? (·.name == name)).isSome = true := by
      rw [List.find?_isSome]
      exact ⟨g, hg, by simp [hgname, hname]⟩
    obtain ⟨x, hx⟩ := Option.isSome_iff_exists.mp hfound
    rw [hx]
    rfl
  · have hname' : (f.withDefault u).name ≠ name := hname
    simp [hname, hname']

theorem find?_modify_self (hf : fs[n]? = some f) (u : Value)
    (hnew : f.name ∉ (fs.take n).map (·.name)) :
    (fs.modify n (·.withDefault u)).find? (·.name == f.name) = some (f.withDefault u) := by
  refine find?_of_new (f := f.withDefault u) (n := n) (by simp [hf]) ?_
  rw [List.take_modify, List.modify_eq_self (List.length_take_le _ _)]
  exact hnew

theorem markPrimary_eq (authored : List AuthoredField) (r : Field) :
    markPrimary authored r = ((authored.find? fun f => f.name == r.name).map fun f =>
      if isPrimary f then r.asPrimary f else r).getD r := by
  rw [← map_fst_authoredOf?, markPrimary]
  cases authoredOf? authored r.name <;> rfl

theorem isPrimary_counting (f : AuthoredField) :
    isPrimary (f.withDefault Intent.countingWord) = true := by
  simp [isPrimary, countsUp, Intent.AuthoredField.withDefault, Intent.countingWord]

theorem asPrimary_of_countsUp {r : Field}
    (h : (countsUp f || countingWords.contains (Text.normalize f.type)) = true) :
    r.asPrimary f = { r with
      primary := true, nullable := false, generated := some .autoIncrement, default := none } := by
  simp only [Field.asPrimary, h, if_true]

theorem asPrimary_counting (f : AuthoredField) (r : Field) :
    r.asPrimary (f.withDefault Intent.countingWord) = { r with
      primary := true, nullable := false, generated := some .autoIncrement, default := none } := by
  apply asPrimary_of_countsUp
  simp [countsUp, Intent.AuthoredField.withDefault, Intent.countingWord]

/-- A field that counts up anyway is marked as one whose default is spelled as keys are told by
it. -/
theorem asPrimary_of_countsUpAnyway (h : CountsUpAnyway f) (r : Field) :
    isPrimary f = true ∧ r.asPrimary f = r.asPrimary (f.withDefault Intent.countingWord) := by
  rw [asPrimary_counting]
  rcases h with h | ⟨hprimary, h⟩
  · exact ⟨by simp [isPrimary, h], asPrimary_of_countsUp (by simp [h])⟩
  · exact ⟨hprimary, asPrimary_of_countsUp (by rw [h, Bool.or_true])⟩

/-- A field that does not count up anyway keeps the default that it has. -/
theorem default_markPrimary_of_not (h : ¬ CountsUpAnyway f) {r : Field} {d : Default}
    (hr : r.default = some d) :
    (if isPrimary f then r.asPrimary f else r).default = some d := by
  simp only [CountsUpAnyway, not_or, not_and, Bool.not_eq_true] at h
  split
  case isTrue hprimary =>
    have hcounts : (countsUp f || countingWords.contains (Text.normalize f.type)) = false := by
      rw [h.1, h.2 hprimary, Bool.or_false]
    simp only [Field.asPrimary, hcounts, hr, Option.isNone_some, Bool.and_false, Bool.false_eq_true,
      if_false]
  case isFalse => exact hr

theorem isRewritten_respelled (hf : i.fields[n]? = some f) (hfw : f.default = .str w)
    (hw : Text.normalize w = "autoincrement") : IsRewritten i (i.respelled n) := by
  obtain ⟨hn, hget⟩ := List.getElem?_eq_some_iff.mp hf
  have hsame : List.Forall₂ SameDefault i.fields i.fields :=
    List.forall₂_same.mpr fun g _ => SameDefault.refl g
  have hset := Shape.forall₂_set hsame (sameDefault_counting hfw hw) n
  rw [← hget, List.set_getElem_self, hget] at hset
  refine ⟨_, ?_, rfl⟩
  rwa [List.modify_eq_set_getElem?, hf]

/-- Where nothing hangs on the spelling of a default, it decides nothing. -/
theorem markedFields_respelled (hf : i.fields[n]? = some f) (hfw : f.default = .str w)
    (hw : Text.normalize w = "autoincrement") (h : ¬ HangsOnSpelling i n f) :
    markedFields (i.respelled n) = markedFields i := by
  rw [markedFields, markedFields, resolveFields_congr (isRewritten_respelled hf hfw hw)]
  refine List.map_congr_left fun r hr => ?_
  obtain ⟨-, g, t, hg, ht, rfl⟩ := (mem_resolveFrom rfl).mp hr
  rw [markPrimary_eq, markPrimary_eq, i.fields_respelled]
  by_cases hplace : f.name = (Field.ofAuthored g t).name ∧ f.name ∉ (i.fields.take n).map (·.name)
  · obtain ⟨hname, hnew⟩ := hplace
    have hfound := find?_of_new hf hnew
    rw [← hname] at hg ⊢
    obtain rfl := Option.some.inj (hfound.symm.trans hg)
    have hanyway : CountsUpAnyway f := not_not.mp fun hnot => h ⟨hnew, ⟨t, ht⟩, hnot⟩
    obtain ⟨hprimary, hmark⟩ := asPrimary_of_countsUpAnyway hanyway (Field.ofAuthored f t)
    rw [find?_modify_self hf _ hnew, hfound]
    simp only [Option.map_some, Option.getD_some, hprimary, isPrimary_counting, if_true, hmark]
  · rw [find?_modify_of hf _ fun hname => not_not.mp fun hnew => hplace ⟨hname, hnew⟩]

/-- Where something hangs on the spelling of a default, the field has it; with the other spelling it
is a key that counts up, and has none. -/
theorem default_markPrimary_respelled (hf : i.fields[n]? = some f) (hfw : f.default = .str w)
    (hw : Text.normalize w = "autoincrement") (h : HangsOnSpelling i n f) (t : FieldType) :
    (markPrimary i.fields (Field.ofAuthored f t)).default = some .autoIncrement ∧
      (markPrimary (i.respelled n).fields (Field.ofAuthored f t)).default = none := by
  have hfound : i.fields.find? (fun g => g.name == (Field.ofAuthored f t).name) = some f :=
    find?_of_new hf h.first
  have hfound' : (i.respelled n).fields.find? (fun g => g.name == (Field.ofAuthored f t).name) =
      some (f.withDefault Intent.countingWord) :=
    find?_modify_self hf _ h.first
  rw [markPrimary_eq, markPrimary_eq, hfound, hfound']
  simp only [Option.map_some, Option.getD_some, isPrimary_counting, if_true, asPrimary_counting]
  exact ⟨default_markPrimary_of_not h.undecided (defaultOf_of_counting hfw hw), trivial⟩

end Marks

end Resolved
end SchemaIntents
