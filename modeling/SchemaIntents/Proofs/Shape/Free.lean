import Mathlib.Data.List.Nodup
import SchemaIntents.Proofs.Shape.Gaps
import SchemaIntents.Proofs.Shape.Mending

/-! The values that stand free in an instance: each comes whole out of the value that was read.
Where there are none, and no free keys, the instance is written as it stands. -/
namespace SchemaIntents

variable {ν : Type} {schema : Schema ν}

theorem Value.Sayable.of_mem_children {v w : Value} (h : v.Sayable) (hw : w ∈ v.children) :
    w.Sayable := by
  cases v with
  | list vs => exact sayable_list.mp h w hw
  | obj es =>
    obtain ⟨e, he, rfl⟩ := List.mem_map.mp hw
    exact sayable_obj.mp h e he
  | _ => cases h.isJson <;> simp [children] at hw

namespace Shape

/-- Whether no value and no key stands free in a shape whose models are of a sort. -/
def isBound (sort : ν → Bool) : Shape ν → Bool
  | any | mapping | table _ => false
  | list _ s | optional s => s.isBound sort
  | model n => sort n
  | tagged _ choices => choices.all fun c => sort c.2
  | _ => true

theorem freeValues_null {u : Value} (s : Shape ν) (hu : u ∈ s.freeValues .null) : u = .null := by
  induction s with
  | any => simpa [freeValues] using hu
  | optional s ih => exact ih hu
  | _ => simp [freeValues] at hu

theorem jsonFault?_eq_none {sort : ν → Bool} {s : Shape ν} (h : s.isBound sort = true) (v : Value) :
    s.jsonFault? v = none := by
  induction s with
  | any | mapping | table => simp [isBound] at h
  | optional s ih => exact ih h
  | _ => rfl

theorem freeValues_eq_nil {sort : ν → Bool} {s : Shape ν} (h : s.isBound sort = true) (v : Value) :
    s.freeValues v = [] := by
  induction s with
  | any | mapping | table => simp [isBound] at h
  | optional s ih => exact ih h
  | _ => rfl

theorem mended_eq_self {sort : ν → Bool} {s : Shape ν} (h : s.isBound sort = true) (v : Value) :
    s.mended v = v := by
  induction s with
  | any | mapping | table => simp [isBound] at h
  | optional s ih => exact ih h
  | _ => rfl

end Shape

namespace Instance

open Shape

/-- In the models of a sort no value and no key stands free. -/
def Bound (schema : Schema ν) (sort : ν → Bool) : Prop :=
  ∀ n, sort n = true → ∀ f ∈ (schema n).fields, f.shape.isBound sort = true

theorem freeInFields_eq (fs : List (Field ν)) (is : List (Instance ν)) :
    freeInFields schema fs is = (fs.zip is).flatMap fun p => p.2.freeValuesAs schema p.1.shape := by
  induction fs generalizing is with
  | nil => simp [freeInFields]
  | cons f fs ih => cases is <;> simp [freeInFields, ih]

theorem freeValuesAs_optional (s : Shape ν) (i : Instance ν) :
    i.freeValuesAs schema (.optional s) = i.freeValuesAs schema s := by
  cases i <;> rfl

/-- What stands for an absent field holds no free value. -/
theorem free_of_stands {s : Shape ν} {d : Value} (h : s.stands d = true) :
    (ofValue d : Instance ν).freeValuesAs schema s = [] := by
  have plain (s : Shape ν) (d : Value) (h : s.stands d = true) : s.freeValues d = [] := by
    cases s with
    | mapping =>
      cases d with
      | obj es => cases es <;> simp_all [stands, freeValues]
      | _ => simp [stands] at h
    | any | optional => simp [stands] at h
    | _ => rfl
  cases d with
  | list vs =>
    cases s <;> simp only [stands, Bool.false_eq_true] at h
    simp only [Bool.and_eq_true, List.all_eq_true] at h
    rw [ofValue, freeValuesAs, freeInAll_eq, List.flatMap_map, List.flatMap_eq_nil_iff]
    exact fun v hv => plain _ v (h.2 v hv).2
  | _ => exact plain s _ h

/-- What stands free in an absent field is null. -/
theorem null_of_fallback (hs : schema.Faithful) {n : ν} {f : Field ν} {d u : Value}
    (hf : f ∈ (schema n).fields) (hd : f.fallback = some d)
    (hu : u ∈ (ofValue d : Instance ν).freeValuesAs schema f.shape) : u = .null := by
  rcases Field.null_or_stands (hs.settled n f hf) hd with rfl | hst
  · exact freeValues_null f.shape hu
  · simp [free_of_stands hst] at hu

/-- Free values come out of a value as they are: where JSON can say the value, it can say them. Of a
model in which no value stands free nothing is asked. -/
theorem sayable_of_reads (hs : schema.Faithful) {sort : ν → Bool} (hb : Bound schema sort) {l : Nat}
    {s : Shape ν} {v u : Value} {i : Instance ν} (h : Reads schema l s v i)
    (hv : s.isBound sort = true ∨ v.Sayable) (hu : u ∈ i.freeValuesAs schema s) : u.Sayable := by
  induction h with
  | @plain l s v w hp hc =>
    rcases hv with hv | hv
    · simp [freeValuesAs, freeValues_eq_nil hv] at hu
    · cases s with
      | any =>
        obtain rfl := plain.inj (Except.ok.inj hc)
        obtain rfl : u = v := by simpa [freeValuesAs, freeValues] using hu
        exact hv
      | mapping =>
        have hw := plain.inj (eq_of_checker_mapping hc).1
        have hmap : ∀ es, v ≠ .map es := by
          rintro es rfl
          cases hv.isJson
        rw [withTextKeys_eq_self hmap] at hw
        subst hw
        cases w with
        | obj es =>
          obtain ⟨e, he, rfl⟩ := List.mem_map.mp hu
          exact Value.sayable_obj.mp hv e he
        | _ => simp [freeValuesAs, freeValues] at hu
      | _ => simp [freeValuesAs, freeValues, isPlain] at hu hp
  | null => exact freeValues_null _ hu ▸ .null
  | some _ _ ih => exact ih hv (freeValuesAs_optional _ _ ▸ hu)
  | @list l least s v is origin _ ho _ ih =>
    rw [freeValuesAs, freeInAll_eq] at hu
    obtain ⟨i, hi, hu⟩ := List.mem_flatMap.mp hu
    exact ih i hi (hv.imp_right fun hv => hv.of_mem_children (ho i hi)) hu
  | @table l s v es origin ho _ ih =>
    rw [freeValuesAs, freeInEntries_eq] at hu
    obtain ⟨e, he, hu⟩ := List.mem_flatMap.mp hu
    have hv := hv.resolve_left (by simp [isBound])
    exact ih e he (.inr (hv.of_mem_children (ho e he))) hu
  | @model l n v given values origin _ _ ho _ _ ih =>
    rw [freeValuesAs, freeInFields_eq] at hu
    obtain ⟨p, hp, hu⟩ := List.mem_flatMap.mp hu
    have hm := (List.of_mem_zip hp).1
    rcases p.1.absent_or p.2 with ⟨d, hd, he⟩ | hne
    · rw [he] at hu
      exact null_of_fallback hs hm hd hu ▸ .null
    · refine ih p hp hne ?_ hu
      rcases hv with hv | hv
      · exact .inl (hb n hv p.1 hm)
      · exact .inr (hv.of_mem_children (ho p hp hne))
  | @tagged l tag t choices n v given values f hc _ _ _ ih =>
    refine ih ?_ hu
    rcases hv with hv | hv
    · rw [isBound, List.all_eq_true] at hv
      exact .inl (hv _ (List.mem_of_find?_eq_some hc))
    · exact .inr hv

theorem faultAs?_optional (s : Shape ν) (i : Instance ν) :
    i.faultAs? schema (.optional s) = i.faultAs? schema s := by
  cases i <;> rfl

theorem faultAll?_eq_none {s : Shape ν} {is : List (Instance ν)} :
    faultAll? schema s is = none ↔ ∀ i ∈ is, i.faultAs? schema s = none := by
  induction is with
  | nil => simp [faultAll?]
  | cons i is ih => simp [faultAll?, ih]

theorem faultFields?_eq_none {fs : List (Field ν)} {is : List (Instance ν)} :
    faultFields? schema fs is = none ↔ ∀ p ∈ fs.zip is, p.2.faultAs? schema p.1.shape = none := by
  induction fs generalizing is with
  | nil => simp [faultFields?]
  | cons f fs ih => cases is <;> simp [faultFields?, ih]

/-- JSON can say what stands for an absent field. -/
theorem faultAs?_ofValue {sort : ν → Bool} {s : Shape ν} {d : Value} (hb : s.isBound sort = true)
    (h : s.stands d = true) : (ofValue d : Instance ν).faultAs? schema s = none := by
  cases d with
  | list vs =>
    cases s with
    | list least item =>
      rw [ofValue, faultAs?, faultAll?_eq_none, List.forall_mem_map]
      exact fun v _ => jsonFault?_eq_none (s := item) hb v
    | _ => simp [stands] at h
  | _ => exact jsonFault?_eq_none hb _

/-- Where no value stands free, JSON can say all that is read. -/
theorem faultAs?_of_reads (hs : schema.Faithful) {sort : ν → Bool}
    (hb : Bound schema sort) {l : Nat}
    {s : Shape ν} {v : Value} {i : Instance ν} (h : Reads schema l s v i)
      (hv : s.isBound sort = true) :
    i.faultAs? schema s = none := by
  induction h with
  | plain | null => exact jsonFault?_eq_none hv _
  | some _ _ ih => exact (faultAs?_optional _ _).trans (ih hv)
  | list _ _ _ _ ih => exact faultAll?_eq_none.mpr fun i hi => ih i hi hv
  | table => simp [isBound] at hv
  | @model l n v given values origin _ _ _ _ _ ih =>
    refine faultFields?_eq_none.mpr fun p hp => ?_
    have hm := (List.of_mem_zip hp).1
    have hbound := hb n hv p.1 hm
    rcases p.1.absent_or p.2 with ⟨d, hd, he⟩ | hne
    · rw [he]
      rcases Field.null_or_stands (hs.settled n p.1 hm) hd with rfl | hst
      · exact jsonFault?_eq_none hbound _
      · exact faultAs?_ofValue hbound hst
    · exact ih p hp hne hbound
  | tagged hc _ _ _ ih =>
    rw [isBound, List.all_eq_true] at hv
    exact ih (hv _ (List.mem_of_find?_eq_some hc))

/-- A model in which values stand free only in one field: JSON can say them all where it can say
those of that field. -/
theorem sayable_of_field (hs : schema.Faithful) {sort : ν → Bool} (hb : Bound schema sort)
    (hnames : ∀ n, ((schema n).fields.map (·.name)).Nodup) {l : Nat} {n : ν} {v u : Value}
    {x : Instance ν} {f : Field ν} (h : Reads schema l (.model n) v x) (hf : f ∈ (schema n).fields)
    (hrest : ∀ g ∈ (schema n).fields, g.name ≠ f.name → g.shape.isBound sort = true)
    (hopen : ∀ u ∈ (x.field schema f.name).freeValuesAs schema f.shape, u.Sayable)
    (hu : u ∈ x.freeValuesAs schema (.model n)) : u.Sayable := by
  cases h with
  | plain hp => simp [isPlain] at hp
  | @model _ _ _ given values origin _ _ _ hread _ =>
    rw [freeValuesAs, freeInFields_eq] at hu
    obtain ⟨⟨g, i⟩, hp, hu⟩ := List.mem_flatMap.mp hu
    have hm := (List.of_mem_zip hp).1
    by_cases hg : g.name = f.name
    · obtain rfl : g = f := List.inj_on_of_nodup_map (hnames n) hm hf hg
      refine hopen u ?_
      rw [field_model (hnames n) hp]
      exact hu
    · rcases g.absent_or i with ⟨d, hd, rfl⟩ | hne
      · exact null_of_fallback hs hm hd hu ▸ .null
      · exact sayable_of_reads hs hb (hread _ hp hne) (.inl (hrest g hm hg)) hu

/-- Where no key stands free, none is mended. -/
theorem mendedAs_of_reads (hs : schema.Faithful) {sort : ν → Bool}
    (hb : Bound schema sort) {l : Nat}
    {s : Shape ν} {v : Value} {i : Instance ν} (h : Reads schema l s v i)
      (hv : s.isBound sort = true) :
    i.mendedAs schema s = i := by
  induction h with
  | plain | null => exact congrArg plain (mended_eq_self hv _)
  | some _ _ ih => exact (mendedAs_optional _ _).trans (ih hv)
  | list _ _ _ _ ih =>
    rw [mendedAs, part, mendedAll_eq, List.map_congr_left fun i hi => ih i hi hv, List.map_id']
  | table => simp [isBound] at hv
  | @model l n v given values origin _ hlen _ _ _ ih =>
    have same : ∀ p ∈ (schema n).fields.zip values, p.2.mendedAs schema p.1.shape = p.2 := by
      intro p hp
      have hm := (List.of_mem_zip hp).1
      rcases p.1.absent_or p.2 with ⟨d, hd, he⟩ | hne
      · rw [he]
        exact mendedAs_ofValue (Field.null_or_stands (hs.settled n p.1 hm) hd)
      · exact ih p hp hne (hb n hv p.1 hm)
    have zipped := congrArg (List.map Prod.snd) (zip_mendedFields schema (schema n).fields values)
    rw [List.map_snd_zip (Nat.le_of_eq ((length_mendedFields hlen).trans hlen.symm)),
      List.map_map] at zipped
    rw [mendedAs, zipped, Function.comp_def, List.map_congr_left same,
      List.map_snd_zip (Nat.le_of_eq hlen.symm)]
  | tagged hc _ _ _ ih =>
    rw [isBound, List.all_eq_true] at hv
    exact ih (hv _ (List.mem_of_find?_eq_some hc))

end Instance

namespace Reads

open Instance Shape

/-- A field of a model is absent, or was read from a value that JSON can say where it can say the
value of the model. -/
theorem field_of_sayable (hnames : ∀ n, ((schema n).fields.map (·.name)).Nodup) {l : Nat} {n : ν}
    {v : Value} {x : Instance ν} {f : Field ν} (h : Reads schema l (.model n) v x) (hv : v.Sayable)
    (hf : f ∈ (schema n).fields) :
    (∃ d, f.fallback = Option.some d ∧ x.field schema f.name = .ofValue d) ∨
      ∃ k w, w.Sayable ∧ Reads schema k f.shape w (x.field schema f.name) := by
  cases h with
  | plain hp => simp [isPlain] at hp
  | @model _ _ _ given values origin _ hlen ho hread _ =>
    obtain ⟨i, hi⟩ := exists_zip_of_mem hlen hf
    rw [field_model (hnames n) hi]
    exact (f.absent_or i).imp_right fun hne =>
      ⟨_, _, hv.of_mem_children (ho _ hi hne), hread _ hi hne⟩

theorem maybe_of_sayable (name wire : String) {s : Shape ν}
    (hnames : ∀ n, ((schema n).fields.map (·.name)).Nodup) {l : Nat} {n : ν} {v : Value}
    {x : Instance ν} (h : Reads schema l (.model n) v x) (hv : v.Sayable)
    (hf : .maybe name wire s ∈ (schema n).fields) :
    x.field schema name = .plain .null ∨
      ∃ k w, w.Sayable ∧ Reads schema k s w (x.field schema name) := by
  rcases field_of_sayable hnames h hv hf with ⟨d, hd, hx⟩ | ⟨k, w, hw, hread⟩
  · obtain rfl := Option.some.inj hd
    exact .inl hx
  · simp only [Field.maybe] at hread
    generalize x.field schema name = y at hread
    cases hread with
    | plain hp => simp [isPlain] at hp
    | null => exact .inl rfl
    | some _ hread => exact .inr ⟨k, w, hw, hread⟩

/-- A free mapping is the value that it was read from. -/
theorem mapping_of_sayable {l : Nat} {v : Value} {x : Instance ν}
    (h : Reads schema l .mapping v x) (hv : v.Sayable) : ∃ es, x = .plain (.obj es) ∧
      ∀ e ∈ es, e.2.Sayable := by
  cases h with
  | plain _ hc =>
    obtain ⟨hw, cs, hcs⟩ := eq_of_checker_mapping hc
    cases v with
    | obj es => exact ⟨es, hw, Value.sayable_obj.mp hv⟩
    | map | loop => cases hv.isJson
    | _ => simp [Value.parts] at hcs

/-- Nor does a list of free mappings hold anything else. -/
theorem mappings_of_sayable {l least : Nat} {v : Value} {x : Instance ν}
    (h : Reads schema l (.list least .mapping) v x) (hv : v.Sayable) :
    ∀ u ∈ (x.items?.getD []).map value, u.Sayable := by
  cases h with
  | plain hp => simp [isPlain] at hp
  | list origin _ ho hread =>
    refine List.forall_mem_map.mpr fun i hi => ?_
    obtain ⟨es, hes, hsayable⟩ := (hread i hi).mapping_of_sayable (hv.of_mem_children (ho i hi))
    rw [hes]
    exact Value.sayable_obj.mpr hsayable

end Reads
end SchemaIntents
