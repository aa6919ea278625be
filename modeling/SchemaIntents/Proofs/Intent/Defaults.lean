import SchemaIntents.Proofs.Intent.Retyping

/-! Intents in which the default of one field is written anew. They come to the same issues, or to
parts that differ in that default alone. -/
namespace SchemaIntents

open Shape Value

/-- A field with another default. -/
def Intent.AuthoredField.withDefault (f : AuthoredField) (u : Value) : AuthoredField :=
  { f with default := u }

namespace Intent

/-- Where the default of a field stands that is listed under a key. -/
def defaultPlace (key : String) (n : Nat) : Location :=
  [.key key, .index n, .key "default"]

variable {m : Name} {g : Field Name} {key : String} {n l : Nat} {u w : Value} {p p' : Part}

/-- A default stays as it is when the field is read. -/
theorem default_of_checker {es : List (String × Value)}
    (h : (Value.obj es).checker schema l (.model .field) = .ok p)
      (hu : find? "default" es = some u) :
    (AuthoredField.ofPart p).default = u := by
  have hc := Instance.field_of_checker (f := .defaulted "default" "default" .any .null)
    (names_nodup .field) h (by simp [schema, field]) hu
  simp only [AuthoredField.ofPart, Part.get]
  rw [show p.field schema "default" = .plain u from (Except.ok.inj hc).symm]
  rfl

/-- Where a model lists fields, a value that fits it has a list that is read one for one. -/
theorem exists_items_of_find? (hg : ListsFields m g) {es : List (String × Value)} {vs : List Value}
    (h : (Value.obj es).checker schema l (.model m) = .ok p)
      (hvs : find? g.name es = some (.list vs)) :
    ∃ is, p.get g.name = .list is ∧ List.Forall₂
      (fun v i => v.checker schema (l - (schema m).level) (.model .field) = .ok i) vs is := by
  have hc := Instance.field_of_checker (names_nodup m) h hg.mem (hg.spelled ▸ hvs)
  rw [hg.level, Nat.sub_zero] at hc
  obtain ⟨least, hlist⟩ : ∃ least, (Value.list vs).checker schema (l - (schema m).level)
      (.list least (.model .field)) = .ok (p.get g.name) := by
    obtain ⟨least, hshape | hshape⟩ := hg.shape
    · exact ⟨least, hshape ▸ hc⟩
    · rw [hshape, checker_optional (by simp)] at hc
      exact ⟨least, hc⟩
  rw [checker_list_list] at hlist
  obtain ⟨is, his, -, hitems⟩ := checkList_eq_ok.mp hlist
  exact ⟨is, his, hitems⟩

/-- Where plain data has a default, the intent that is read from it has a field with that
default. -/
theorem exists_default_of_at? (hg : ListsFields m g) {v : Value}
    (h : v.checker schema l (.model m) = .ok p) (hu : v.at? (defaultPlace g.name n) = some u) :
    ∃ f, (p.fields g.name)[n]? = some f ∧ f.default = u := by
  obtain ⟨es, w, rfl, hw, hu⟩ := of_at?_key hu
  obtain ⟨vs, x, rfl, hx, hu⟩ := of_at?_index hu
  obtain ⟨fs, y, rfl, hy, hu⟩ := of_at?_key hu
  obtain rfl : y = u := by simpa [Value.at?] using hu
  obtain ⟨is, his, hitems⟩ := exists_items_of_find? hg h hw
  obtain ⟨i, hi, hfield⟩ := exists_getElem?_of_forall₂ hitems hx
  refine ⟨.ofPart i, ?_, default_of_checker hfield hy⟩
  rw [fields_eq, his]
  simp [Instance.items, hi]

section Redefaulting

/-- A part without its default. -/
def blank : Part → Part :=
  Instance.alter schema fun f i => if f.name = "default" then .plain .null else i

/-- A part that holds what another one does, but for the default of one of the fields that are
listed under a key. -/
structure GetsDefault (p p' : Part) (key : String) (n : Nat) (u : Value) : Prop where
  fields : p'.fields key = (p.fields key).modify n (·.withDefault u)
  others : ∀ name ≠ key, Part.get p' name = p.get name

theorem get_of_blank_eq {q q' : Part} (h : blank q = blank q') {name : String}
    (hname : name ≠ "default") : q'.get name = q.get name := by
  have keeps : ∀ f : Field Name, f.name = name → ∀ i : Part,
      (if f.name = "default" then .plain .null else i) = i := fun f hf i => if_neg (hf ▸ hname)
  rw [Part.get, Part.get, ← Instance.field_alter keeps q, ← Instance.field_alter keeps q']
  exact congrArg (Instance.field schema · name) h.symm

/-- Parts that differ in their default alone are read as fields that do. -/
theorem ofPart_eq_withDefault {q q' : Part} (h : blank q = blank q')
    (hu : (AuthoredField.ofPart q').default = u) :
    AuthoredField.ofPart q' = (AuthoredField.ofPart q).withDefault u := by
  subst hu
  simp (disch := decide) only [AuthoredField.ofPart, AuthoredField.withDefault,
    Part.text, Part.some?,
    Part.text?, Part.flag?, Part.whole?, Part.real?, Part.texts?, Part.items?, Part.part?,
    Part.attributes, get_of_blank_eq h]

/-- What a field comes to does not depend on what it has for its default. -/
theorem checker_field_blank {es : List (String × Value)}
    (hw : find? "default" es = some w) (u : Value) :
    ((Value.obj es).checker schema l (.model .field)).map blank =
      ((Value.obj (put "default" u es)).checker schema l (.model .field)).map blank := by
  have hkeys : es.map (·.1) = (put "default" u es).map (·.1) := by
    rw [keys_put, if_pos (List.mem_map_of_mem (mem_of_find? hw))]
  have hspelled : ∀ f ∈ (schema .field).fields, f.wire = f.name := by decide
  refine checker_alter rfl hkeys fun f hf => ?_
  by_cases hname : f.name = "default"
  · obtain rfl := List.inj_on_of_nodup_map (names_nodup .field) hf
      (show Field.defaulted "default" "default" .any .null ∈ _ by simp [schema, field]) hname
    have hput : find? "default" (put "default" u es) = some u := find?_put_self _ _ _
    rw [fieldOutcome_of_find? (f := .defaulted "default" "default" .any .null) hw,
      fieldOutcome_of_find? (f := .defaulted "default" "default" .any .null) hput]
    rfl
  · have hwire : f.wire ≠ "default" := hspelled f hf ▸ hname
    rw [fieldOutcome_congr (find?_put_of_ne hwire u es).symm (find?_put_of_ne hname u es).symm]

/-- Whatever default one of the fields of an intent has, the intent comes to the same issues or to
the same part but for that default. -/
theorem checker_redefault (hg : ListsFields m g) {v : Value}
    (hw : v.at? (defaultPlace g.name n) = some w) (u : Value) :
    (∃ issues, v.checker schema l (.model m) = .error issues ∧
        (v.replace (defaultPlace g.name n) u).checker schema l (.model m) = .error issues) ∨
      ∃ p p', v.checker schema l (.model m) = .ok p ∧
        (v.replace (defaultPlace g.name n) u).checker schema l (.model m) = .ok p' ∧
        GetsDefault p p' g.name n u := by
  obtain ⟨es, x, rfl, hvs, hw⟩ := of_at?_key hw
  obtain ⟨vs, y, rfl, hx, hw⟩ := of_at?_index hw
  obtain ⟨fs, z, rfl, hz, hw⟩ := of_at?_key hw
  let x' := Value.obj (put "default" u fs)
  let es' := put g.name (.list (vs.set n x')) es
  have hplace : (Value.obj es).replace (defaultPlace g.name n) u = .obj es' := by
    rw [defaultPlace, replace_key hvs, replace_index, List.modify_eq_set_getElem?, hx]
    simp only [Option.map_eq_map, Option.map_some, Option.getD_some, replace_key hz]
    rfl
  have hvs' : find? g.name es' = some (.list (vs.set n x')) := find?_put_self _ _ _
  have hkeys : es.map (·.1) = es'.map (·.1) := by
    rw [keys_put, if_pos (List.mem_map_of_mem (mem_of_find? hvs))]
  have halter := checker_alter (l := l) (n := m) hg.rule hkeys
    (g := fun f i => if f.name = g.name then i.alterItem n blank else i) fun f hf => by
      by_cases hname : f.name = g.name
      · obtain rfl := List.inj_on_of_nodup_map (names_nodup m) hf hg.mem hname
        obtain ⟨least, hshape⟩ := hg.shape
        have hlist := checker_list_alter (l := l - (schema m).level - f.level) least hx
          (checker_field_blank hz u)
        rw [fieldOutcome_of_find? (hg.spelled ▸ hvs), fieldOutcome_of_find? (hg.spelled ▸ hvs'),
          map_under, map_under]
        simp only [if_true]
        rcases hshape with hshape | hshape
        · rw [hshape]
          exact congrArg _ hlist
        · rw [hshape, checker_optional (by simp), checker_optional (by simp)]
          exact congrArg _ hlist
      · have hwire : f.wire ≠ g.name := hg.wires f hf ▸ hname
        rw [fieldOutcome_congr (find?_put_of_ne hwire _ es).symm (find?_put_of_ne hname _ es).symm]
  rw [hplace]
  rcases map_eq_map halter with herror | ⟨p, p', hp, hp', hsame⟩
  · exact .inl herror
  refine .inr ⟨p, p', hp, hp', ?_, fun name hname => ?_⟩
  · obtain ⟨is, his, hitems⟩ := exists_items_of_find? hg hp hvs
    obtain ⟨is', his', hitems'⟩ := exists_items_of_find? hg hp' hvs'
    have hblank : is.modify n blank = is'.modify n blank := by
      have hfield := congrArg (Instance.field schema · g.name) hsame
      simp only [Instance.field_alter_eq (h := Instance.alterItem n blank)
        (fun f hf => funext fun i => if_pos hf) rfl] at hfield
      rw [← Part.get, ← Part.get, his, his'] at hfield
      simpa [Instance.alterItem] using hfield
    obtain ⟨i', hi', hfield'⟩ := exists_getElem?_of_forall₂ hitems'
      (List.getElem?_set_self (List.getElem?_eq_some_iff.mp hx).1)
    rw [fields_eq, fields_eq, his, his']
    refine List.ext_getElem? fun k => ?_
    have hk := congrArg (·[k]?) hblank
    simp only [Instance.items, List.getElem?_map, List.getElem?_modify] at hk ⊢
    by_cases hkn : n = k
    · subst hkn
      simp only [if_true, hi', Option.map_eq_map, Option.map_some, Option.map_eq_some_iff] at hk ⊢
      obtain ⟨i, hi, hii'⟩ := hk
      simp [hi, ofPart_eq_withDefault hii' (default_of_checker hfield' (find?_put_self _ _ _))]
    · simp only [hkn, if_false, Option.map_eq_map, Option.map_id'] at hk ⊢
      rw [hk]
  · have keeps : ∀ f : Field Name, f.name = name → ∀ i : Part,
        (if f.name = g.name then i.alterItem n blank else i) = i := fun f hf i =>
          if_neg (hf ▸ hname)
    rw [Part.get, Part.get, ← Instance.field_alter keeps p, hsame, Instance.field_alter keeps p']

end Redefaulting

end Intent
end SchemaIntents
