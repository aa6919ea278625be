import Mathlib.Data.List.Nodup
import SchemaIntents.Proofs.Shape.Record
import SchemaIntents.Proofs.Value.Entries

/-! Instances whose fields are changed one by one. Mappings with the same keys come to outcomes that
are alike if the outcomes of all their fields are. -/
namespace SchemaIntents

variable {ν : Type} {schema : Schema ν} {g : Field ν → Instance ν → Instance ν}

namespace Instance

/-- An instance of a model with each field changed in a way of its own. -/
def alter (schema : Schema ν) (g : Field ν → Instance ν → Instance ν) : Instance ν → Instance ν
  | model n given values => model n given (((schema n).fields.zip values).map fun p => g p.1 p.2)
  | i => i

theorem find?_zip_alter (name : String) (fs : List (Field ν)) (vs : List (Instance ν)) :
    (fs.zip ((fs.zip vs).map fun p => g p.1 p.2)).find? (·.1.name == name) =
      ((fs.zip vs).find? (·.1.name == name)).map fun p => (p.1, g p.1 p.2) := by
  induction fs generalizing vs with
  | nil => rfl
  | cons f fs ih =>
    cases vs with
    | nil => rfl
    | cons v vs =>
      simp only [List.zip_cons_cons, List.map_cons, List.find?_cons]
      cases f.name == name with
      | true => rfl
      | false => exact ih vs

/-- A list with one of its items changed. -/
def alterItem (n : Nat) (h : Instance ν → Instance ν) : Instance ν → Instance ν
  | list is => list (is.modify n h)
  | i => i

/-- A field is there as it is changed. -/
theorem field_alter_eq {name : String} {h : Instance ν → Instance ν}
    (hg : ∀ f : Field ν, f.name = name → g f = h) (hnull : h (plain .null) = plain .null)
    (i : Instance ν) : (i.alter schema g).field schema name = h (i.field schema name) := by
  cases i with
  | model n given values =>
    simp only [alter, field, find?_zip_alter]
    cases hfind : ((schema n).fields.zip values).find? (·.1.name == name) with
    | none => exact hnull.symm
    | some p =>
      obtain ⟨f, v⟩ := p
      have hname : f.name = name := by simpa using List.find?_some hfind
      simp [hg f hname]
  | _ => exact hnull.symm

/-- A field that is not changed stays. -/
theorem field_alter {name : String} (hg : ∀ f : Field ν, f.name = name → ∀ i, g f i = i)
    (i : Instance ν) : (i.alter schema g).field schema name = i.field schema name :=
  field_alter_eq (h := id) (fun f hf => funext (hg f hf)) rfl i

end Instance

namespace Shape

open Checked Value

/-- Outcomes that are changed one by one are changed together. -/
theorem collect_alter (c : Field ν → Checked ν) (fs : List (Field ν)) :
    collect (fs.map fun f => (c f).map (g f)) =
      (collect (fs.map c)).map fun vs => (fs.zip vs).map fun p => g p.1 p.2 := by
  induction fs with
  | nil => rfl
  | cons f fs ih =>
    simp only [List.map_cons, collect, ih]
    cases c f <;> cases collect (fs.map c) <;> rfl

/-- Outcomes of which one is changed come to what they did, but for that one. -/
theorem collect_modify {h : Instance ν → Instance ν} {cs : List (Checked ν)}
    {c c' : Checked ν} {n : Nat} (hc : cs[n]? = some c) (hsame : c.map h = c'.map h) :
    (collect cs).map (·.modify n h) = (collect (cs.set n c')).map (·.modify n h) := by
  induction cs generalizing n with
  | nil => simp at hc
  | cons first cs ih =>
    cases n with
    | zero =>
      obtain rfl : first = c := by simpa using hc
      simp only [List.set_cons_zero, collect]
      rcases map_eq_map hsame with ⟨issues, rfl, rfl⟩ | ⟨i, i', rfl, rfl, hi⟩
      · cases collect cs <;> rfl
      · cases collect cs <;> simp [Except.map, hi]
    | succ n =>
      have hrest := ih (n := n) (by simpa using hc)
      simp only [List.set_cons_succ, collect]
      rcases map_eq_map hrest with ⟨issues, hx, hy⟩ | ⟨is, is', hx, hy, his⟩
      · rw [hx, hy]
      · rw [hx, hy]
        cases first <;> simp [Except.map, his]

theorem map_under {c : Checked ν} {step : Step} {h : Instance ν → Instance ν} :
    (c.under step).map h = Checked.under step (c.map h) := by
  cases c <;> rfl

/-- Which keys a mapping has decides how it spells the fields of a model. -/
theorem spellings_congr {n : ν} {es es' : List (String × Value)}
    (h : es.map (·.1) = es'.map (·.1)) :
    spellings schema n (textKeyed es) = spellings schema n (textKeyed es') := by
  have same : ∀ key, (checkerOf? key ((textKeyed es).map fun e =>
      (e.1, e.2.checker schema))).isSome =
      (checkerOf? key ((textKeyed es').map fun e => (e.1, e.2.checker schema))).isSome := by
    intro key
    rw [checkerOf?_map, checkerOf?_map, textKeyed, textKeyed, findAny?_text_keys,
      findAny?_text_keys, Option.isSome_map, Option.isSome_map, isSome_find?, isSome_find?, h]
  simp only [spellings, spelling?, same]

theorem otherKeys_congr {known : List String} {es es' : List (String × Value)}
    (h : es.map (·.1) = es'.map (·.1)) :
    otherKeys known ((textKeyed es).map fun e => (e.1, e.2.checker schema)) =
      otherKeys known ((textKeyed es').map fun e => (e.1, e.2.checker schema)) := by
  induction es generalizing es' with
  | nil =>
    obtain rfl := List.map_eq_nil_iff.mp h.symm
    rfl
  | cons e es ih =>
    obtain ⟨e', es', rfl, hkey, hrest⟩ := List.map_eq_cons_iff.mp h.symm
    simp only [textKeyed, List.map_cons, otherKeys, hkey]
    have := ih hrest.symm
    simp only [textKeyed] at this
    rw [this]

theorem isTornRecord_congr {n : ν} {es es' : List (String × Value)}
    (h : es.map (·.1) = es'.map (·.1)) :
    isTornRecord schema n (textKeyed es) = isTornRecord schema n (textKeyed es') := by
  have keys (es : List (String × Value)) :
      es.any (fun e => Text.isTorn e.1) = (es.map (·.1)).any Text.isTorn := by
    rw [List.any_map]
    rfl
  rw [isTornRecord, isTornRecord, any_isTornKey_textKeyed, any_isTornKey_textKeyed, keys, keys, h]

/-- Which keys a mapping has decides which of them belong to no field. -/
theorem strangers_congr {n : ν} {es es' : List (String × Value)}
    (h : es.map (·.1) = es'.map (·.1)) :
    strangers schema n (textKeyed es) = strangers schema n (textKeyed es') := by
  rw [strangers, strangers, spellings_congr h, otherKeys_congr h, isTornRecord_congr h]

/-- Mappings with the same keys come to alike outcomes if all their fields do. -/
theorem checker_alter {n : ν} {l : Nat} {es es' : List (String × Value)}
    (hrule : (schema n).rule = none) (hkeys : es.map (·.1) = es'.map (·.1))
    (h : ∀ f ∈ (schema n).fields,
      (fieldOutcome schema (l - (schema n).level) (textKeyed es) f).map (g f) =
        (fieldOutcome schema (l - (schema n).level) (textKeyed es') f).map (g f)) :
    ((Value.obj es).checker schema l (.model n)).map (Instance.alter schema g) =
      ((Value.obj es').checker schema l (.model n)).map (Instance.alter schema g) := by
  have hcollect := congrArg collect (List.map_congr_left h)
  rw [collect_alter, collect_alter] at hcollect
  rw [checker_obj_model, checker_obj_model, checkModel, checkModel]
  split
  · rfl
  cases htorn : isTornRecord schema n (textKeyed es') with
  | true =>
    rw [checkFields_of_isTornRecord htorn,
      checkFields_of_isTornRecord ((isTornRecord_congr hkeys).trans htorn)]
  | false =>
    rw [checkFields_eq htorn, checkFields_eq ((isTornRecord_congr hkeys).trans htorn),
      strangers_congr hkeys, hrule]
    simp only [Option.bind_none]
    rcases map_eq_map hcollect with ⟨issues, hx, hy⟩ | ⟨values, values', hx, hy, hvalues⟩
    · rw [hx, hy]
    · rw [hx, hy]
      cases strangers schema n (textKeyed es') with
      | cons o os => rfl
      | nil => simp [Except.map, Instance.alter, instanceOf, spellings_congr hkeys, hvalues]

/-- Lists come to alike outcomes if they differ in one item, and that does. -/
theorem checker_list_alter {h : Instance ν → Instance ν} {s : Shape ν}
    {vs : List Value} {v v' : Value} {l n : Nat} (least : Nat) (hv : vs[n]? = some v)
    (hsame : (v.checker schema l s).map h = (v'.checker schema l s).map h) :
    ((Value.list vs).checker schema l (.list least s)).map (Instance.alterItem n h) =
      ((Value.list (vs.set n v')).checker schema l (.list least s)).map
        (Instance.alterItem n h) := by
  have hitem : (vs.zipIdx.map fun w => (w.1.checker schema l s).under (.index w.2))[n]? =
      some ((v.checker schema l s).under (.index n)) := by
    simp [hv]
  have hunder : ((v.checker schema l s).under (.index n)).map h =
      ((v'.checker schema l s).under (.index n)).map h := by
    rw [map_under, map_under, hsame]
  have hitems := collect_modify hitem hunder
  have hset : (vs.set n v').zipIdx.map (fun w => (w.1.checker schema l s).under (.index w.2)) =
      (vs.zipIdx.map fun w => (w.1.checker schema l s).under (.index w.2)).set n
        ((v'.checker schema l s).under (.index n)) := by
    refine List.ext_getElem? fun k => ?_
    by_cases hk : n = k
    · subst hk
      simp [(List.getElem?_eq_some_iff.mp hv).1]
    · simp [hk]
  rw [checker_list_list, checker_list_list, checkList, checkList, checkItems_eq,
    checkItems_eq, hset]
  rcases map_eq_map hitems with ⟨issues, hx, hy⟩ | ⟨is, is', hx, hy, his⟩
  · rw [hx, hy]
  · rw [hx, hy]
    have hlength : is.length = is'.length := by
      simpa using congrArg List.length his
    by_cases hshort : is'.length < least
    · simp [hlength, hshort]
    · simp [hlength, hshort, Except.map, Instance.alterItem, his]

/-- What a field comes to depends on the entries at its two spellings alone. -/
theorem fieldOutcome_congr {l : Nat} {es es' : List (String × Value)} {f : Field ν}
    (hwire : find? f.wire es = find? f.wire es') (hname : find? f.name es = find? f.name es') :
    fieldOutcome schema l (textKeyed es) f = fieldOutcome schema l (textKeyed es') f := by
  simp only [fieldOutcome, textKeyed, findAny?_text_keys, hwire, hname]

/-- What two mappings that fit a model have under a name is the same where their entries for it
are. -/
theorem field_congr {n : ν} {l : Nat} {es es' : List (String × Value)}
    {i i' : Instance ν} {name : String} (hn : ((schema n).fields.map (·.name)).Nodup)
    (h : (Value.obj es).checker schema l (.model n) = .ok i)
    (h' : (Value.obj es').checker schema l (.model n) = .ok i')
    (hsame : ∀ f ∈ (schema n).fields, f.name = name →
      find? f.wire es = find? f.wire es' ∧ find? f.name es = find? f.name es') :
    i.field schema name = i'.field schema name := by
  by_cases hname : ∃ f ∈ (schema n).fields, f.name = name
  · obtain ⟨f, hf, rfl⟩ := hname
    obtain ⟨hwire, hnamed⟩ := hsame f hf rfl
    have ho := Instance.fieldOutcome_of_checker hn h hf
    rw [fieldOutcome_congr hwire hnamed, Instance.fieldOutcome_of_checker hn h' hf] at ho
    exact (Except.ok.inj ho).symm
  · have other : ∀ f ∈ (schema n).fields, f.name ≠ name := fun f hf he => hname ⟨f, hf, he⟩
    have hnull {es : List (String × Value)} {i : Instance ν}
        (h : (Value.obj es).checker schema l (.model n) = .ok i) :
          i.field schema name = .plain .null := by
      rw [checker_obj_model, checkModel_eq_ok] at h
      obtain ⟨_, -, -, -, rfl⟩ := checkFields_eq_ok.mp h.2
      exact Instance.field_model_of_ne other
    rw [hnull h, hnull h']

theorem fieldOutcome_of_find? {l : Nat} {es : List (String × Value)} {f : Field ν} {v : Value}
    (hv : find? f.wire es = some v) :
    fieldOutcome schema l (textKeyed es) f =
      (v.checker schema (l - f.level) f.shape).under (.key f.wire) := by
  simp only [fieldOutcome, textKeyed, findAny?_text_keys, hv]

/-- If a mapping fits a model, so does one that differs in the value of a field which fits too, and
all other fields stay. -/
theorem checker_replace {n : ν} {l : Nat} {es es' : List (String × Value)} {f : Field ν} {v : Value}
    {i j : Instance ν} (hrule : (schema n).rule = none)
      (hn : ((schema n).fields.map (·.name)).Nodup)
    (hf : f ∈ (schema n).fields)
    (hother : ∀ u ∈ (schema n).fields, u.name ≠ f.name → u.name ≠ f.wire ∧ u.wire ≠ f.wire)
    (hkeys : es.map (·.1) = es'.map (·.1)) (hsame : ∀ key ≠ f.wire, find? key es = find? key es')
    (hv : find? f.wire es' = some v)
    (hj : v.checker schema (l - (schema n).level - f.level) f.shape = .ok j)
    (h : (Value.obj es).checker schema l (.model n) = .ok i) :
    ∃ i', (Value.obj es').checker schema l (.model n) = .ok i' ∧ i'.field schema f.name = j ∧
      ∀ name ≠ f.name, i'.field schema name = i.field schema name := by
  obtain ⟨u, hu⟩ : ∃ u, find? f.wire es = some u := by
    rw [← Option.isSome_iff_exists, isSome_find?, hkeys, ← isSome_find?, hv, Option.isSome_some]
  have hi := Instance.field_of_checker hn h hf hu
  have halter := checker_alter (g := fun u i => if u.name = f.name then .list [] else i)
    (l := l) hrule hkeys fun u hu' => by
      by_cases hname : u.name = f.name
      · obtain rfl := List.inj_on_of_nodup_map hn hu' hf hname
        rw [fieldOutcome_of_find? hu, fieldOutcome_of_find? hv, hi, hj]
        simp [Checked.under, Except.map]
      · obtain ⟨hnamed, hwired⟩ := hother u hu' hname
        rw [fieldOutcome_congr (hsame _ hwired) (hsame _ hnamed)]
  rcases map_eq_map halter with ⟨issues, hx, -⟩ | ⟨i₁, i', hx, hi', hequal⟩
  · exact absurd (hx.symm.trans h) (by simp)
  obtain rfl := Except.ok.inj (hx.symm.trans h)
  refine ⟨i', hi', Except.ok.inj ((Instance.field_of_checker hn hi' hf hv).symm.trans hj),
    fun name hname => ?_⟩
  have keeps : ∀ u : Field ν, u.name = name → ∀ i : Instance ν,
      (if u.name = f.name then .list [] else i) = i := fun u hu i => if_neg (hu ▸ hname)
  rw [← Instance.field_alter keeps i', ← hequal, Instance.field_alter keeps i₁]

/-- The keys of a mapping that fits a closed model are those of its fields. -/
theorem mem_wires_of_checker {n : ν} {l : Nat} {es : List (String × Value)} {i : Instance ν}
    (hclosed : (schema n).closed = true) (hspelled : ∀ f ∈ (schema n).fields, f.name = f.wire)
    (h : (Value.obj es).checker schema l (.model n) = .ok i) :
    ∀ key ∈ es.map (·.1), key ∈ (schema n).fields.map (·.wire) := by
  rw [checker_obj_model, checkModel_eq_ok] at h
  obtain ⟨-, -, hnone, -, -⟩ := checkFields_eq_ok.mp h.2
  rw [strangers_of_closed hclosed (isTornRecord_of_strangers_eq_nil hnone),
    otherKeys_eq_nil] at hnone
  intro key hkey
  obtain ⟨e, he, rfl⟩ := List.mem_map.mp hkey
  obtain ⟨o, ho, hspelling⟩ := List.mem_filterMap.mp (hnone e he)
  obtain ⟨f, hf, rfl⟩ := List.mem_map.mp ho
  refine List.mem_map.mpr ⟨f, hf, ?_⟩
  simp only [spelling?, hspelled f hf, id_eq] at hspelling
  split at hspelling
  · exact Option.some.inj hspelling
  · simp at hspelling

/-- A mapping whose fields all come to something fits its model, and has that in them. -/
theorem checker_of_outcomes {n : ν} {l : Nat} {es : List (String × Value)} (g : String → Instance ν)
    (hrule : (schema n).rule = none) (hn : ((schema n).fields.map (·.name)).Nodup)
    (hwhole : ∀ f ∈ (schema n).fields, Text.isTorn f.wire = false) (hlevel : (schema n).level ≤ l)
    (hkeys : ∀ key ∈ es.map (·.1), key ∈ (schema n).fields.map (·.wire))
    (h : ∀ f ∈ (schema n).fields,
      fieldOutcome schema (l - (schema n).level) (textKeyed es) f = .ok (g f.name)) :
    ∃ i, (Value.obj es).checker schema l (.model n) = .ok i ∧
      ∀ name ∈ (schema n).fields.map (·.name), i.field schema name = g name := by
  have hvalues : List.Forall₂
      (fun f v => fieldOutcome schema (l - (schema n).level) (textKeyed es) f = .ok v)
      (schema n).fields ((schema n).fields.map fun f => g f.name) :=
    List.forall₂_map_right_iff.mpr (List.forall₂_same.mpr h)
  have hfits : (Value.obj es).checker schema l (.model n) = .ok (instanceOf schema n (textKeyed es)
      ((schema n).fields.map fun f => g f.name)) := by
    rw [checker_obj_model, checkModel_eq_ok]
    have known : ∀ e ∈ es, e.1 ∈ (schema n).fields.map (·.wire) :=
      fun e he => hkeys e.1 (List.mem_map_of_mem he)
    have whole : ∀ e ∈ es, Text.isTorn e.1 = false := by
      intro e he
      obtain ⟨f, hf, hk⟩ := List.mem_map.mp (known e he)
      exact hk ▸ hwhole f hf
    exact ⟨hlevel, checkFields_eq_ok.mpr
      ⟨_, hvalues, strangers_eq_nil whole known, by rw [hrule, Option.bind_none], rfl⟩⟩
  refine ⟨_, hfits, fun name hname => ?_⟩
  obtain ⟨f, hf, rfl⟩ := List.mem_map.mp hname
  exact Except.ok.inj ((Instance.fieldOutcome_of_checker hn hfits hf).symm.trans (h f hf))

end Shape
end SchemaIntents
