import SchemaIntents.Proofs.Shape.Writing

/-! Keys as they are written: with their halves of pairs mended, so that two of them may become one.
What is read with keys that are mended already is what is written. -/
namespace SchemaIntents

namespace Value

variable {α β : Type} {es : List (String × α)} {e : String × α}

theorem put_map (f : α → β) (key : String) (a : α) (es : List (String × α)) :
    put key (f a) (es.map fun e => (e.1, f e.2)) = (put key a es).map fun e => (e.1, f e.2) := by
  induction es with
  | nil => rfl
  | cons e es ih =>
    obtain ⟨k, b⟩ := e
    by_cases hk : k = key <;> simp [put, hk, ih]

/-- Keys are mended in the same way whatever stands at them. -/
theorem mendKeys_map (f : α → β) (es : List (String × α)) :
    mendKeys (es.map fun e => (e.1, f e.2)) = (mendKeys es).map fun e => (e.1, f e.2) := by
  have fold (ds : List (String × α)) :
      (es.map fun e => (e.1, f e.2)).foldl (fun es e => put (Text.mended e.1) e.2 es)
        (ds.map fun e => (e.1, f e.2)) =
      (es.foldl (fun es e => put (Text.mended e.1) e.2 es) ds).map fun e => (e.1, f e.2) := by
    induction es generalizing ds with
    | nil => rfl
    | cons e es ih => simp only [List.map_cons, List.foldl_cons, put_map, ih]
  have whole : (es.map fun e => (e.1, f e.2)).all (fun e => !Text.isTorn e.1) =
      es.all fun e => !Text.isTorn e.1 := by
    simp [Function.comp_def]
  rw [mendKeys, mendKeys, whole]
  split
  · rfl
  · exact fold []

theorem mem_put_or {key : String} {a : α} (h : e ∈ put key a es) : e = (key, a) ∨ e ∈ es := by
  induction es with
  | nil => exact .inl (List.mem_singleton.mp h)
  | cons d es ih =>
    obtain ⟨k, b⟩ := d
    rw [put] at h
    split at h
    · rename_i hk
      rcases List.mem_cons.mp h with rfl | h
      · exact .inl (hk ▸ rfl)
      · exact .inr (List.mem_cons_of_mem _ h)
    · rcases List.mem_cons.mp h with rfl | h
      · exact .inr List.mem_cons_self
      · exact (ih h).imp_right (List.mem_cons_of_mem _)

/-- What stands at a mended key stood at some key before. -/
theorem mem_mendKeys (h : e ∈ mendKeys es) : Text.isTorn e.1 = false ∧ ∃ d ∈ es, d.2 = e.2 := by
  rw [mendKeys] at h
  split at h
  · rename_i hall
    exact ⟨by simpa using List.all_eq_true.mp hall e h, e, h, rfl⟩
  · refine List.foldlRecOn es (fun ds d => put (Text.mended d.1) d.2 ds)
      (motive := fun ds => ∀ e ∈ ds, Text.isTorn e.1 = false ∧ ∃ d ∈ es, d.2 = e.2)
      (by simp) (fun ds hds d hd e he => ?_) e h
    rcases mem_put_or he with rfl | hmem
    · exact ⟨Text.isTorn_mended, d, hd, rfl⟩
    · exact hds e hmem

theorem isTorn_of_mem_mendKeys (h : e ∈ mendKeys es) : Text.isTorn e.1 = false :=
  (mem_mendKeys h).1

theorem mendKeys_mendKeys (es : List (String × α)) : mendKeys (mendKeys es) = mendKeys es :=
  mendKeys_eq_self fun _ => isTorn_of_mem_mendKeys

theorem put_ne_nil (key : String) (a : α) (es : List (String × α)) : put key a es ≠ [] := by
  cases es with
  | nil => simp [put]
  | cons d es =>
    rw [put]
    split <;> simp

theorem mendKeys_eq_nil : mendKeys es = [] ↔ es = [] := by
  constructor
  · intro h
    cases es with
    | nil => rfl
    | cons d es =>
      rw [mendKeys] at h
      split at h
      · exact h
      · exact absurd h (List.foldlRecOn es (fun ds d => put (Text.mended d.1) d.2 ds)
          (motive := (· ≠ [])) (put_ne_nil _ _ _) fun _ _ _ _ => put_ne_nil _ _ _)
  · rintro rfl
    rfl

end Value

variable {ν : Type} {schema : Schema ν}

namespace Shape

/-- A value of a shape with the keys mended that it is written with. -/
def mended (v : Value) : Shape ν → Value
  | mapping =>
    match v with
    | .obj es => .obj (Value.mendKeys es)
    | v => v
  | optional inner => inner.mended v
  | _ => v

theorem mended_cases (v : Value) (s : Shape ν) :
    s.mended v = v ∨ ∃ es, v = .obj es ∧ s.mended v = .obj (Value.mendKeys es) := by
  induction s with
  | mapping =>
    cases v with
    | obj es => exact .inr ⟨es, rfl, rfl⟩
    | _ => exact .inl rfl
  | optional inner ih => exact ih
  | _ => exact .inl rfl

@[simp] theorem mended_null (s : Shape ν) : s.mended .null = .null := by
  simpa using mended_cases .null s

@[simp] theorem mended_str (s : Shape ν) (t : String) : s.mended (.str t) = .str t := by
  simpa using mended_cases (.str t) s

theorem mended_of_stands {s : Shape ν} {d : Value} (h : s.stands d = true) : s.mended d = d := by
  cases s with
  | mapping =>
    cases d with
    | obj es =>
      cases es with
      | nil => rfl
      | cons e es => simp [stands] at h
    | _ => rfl
  | optional => simp [stands] at h
  | _ => rfl

end Shape

namespace Instance

open Shape

mutual

/-- An instance of a shape with the keys mended that it is written with. -/
def mendedAs (schema : Schema ν) (s : Shape ν) : Instance ν → Instance ν
  | plain v => plain (s.mended v)
  | list is => list (mendedAll schema s.part is)
  | table es => table (Value.mendKeys (mendedEntries schema s.part es))
  | model n given values => model n given (mendedFields schema (schema n).fields values)

def mendedAll (schema : Schema ν) (s : Shape ν) : List (Instance ν) → List (Instance ν)
  | [] => []
  | i :: is => i.mendedAs schema s :: mendedAll schema s is

def mendedEntries (schema : Schema ν) (s : Shape ν) :
    List (String × Instance ν) → List (String × Instance ν)
  | [] => []
  | (k, i) :: rest => (k, i.mendedAs schema s) :: mendedEntries schema s rest

def mendedFields (schema : Schema ν) : List (Field ν) → List (Instance ν) → List (Instance ν)
  | f :: fs, i :: is => i.mendedAs schema f.shape :: mendedFields schema fs is
  | _, _ => []

end

theorem mendedAll_eq (s : Shape ν) (is : List (Instance ν)) :
    mendedAll schema s is = is.map (mendedAs schema s) := by
  induction is with
  | nil => rfl
  | cons i is ih => simp [mendedAll, ih]

theorem mendedEntries_eq (s : Shape ν) (es : List (String × Instance ν)) :
    mendedEntries schema s es = es.map fun e => (e.1, e.2.mendedAs schema s) := by
  induction es with
  | nil => rfl
  | cons e es ih => obtain ⟨k, i⟩ := e; simp [mendedEntries, ih]

variable (schema) in
/-- Fields with their values as these are mended. -/
theorem zip_mendedFields (fs : List (Field ν)) (is : List (Instance ν)) :
    fs.zip (mendedFields schema fs is) =
      (fs.zip is).map fun p => (p.1, p.2.mendedAs schema p.1.shape) := by
  induction fs generalizing is with
  | nil => simp
  | cons f fs ih => cases is <;> simp [mendedFields, ih]

theorem length_mendedFields {fs : List (Field ν)} {is : List (Instance ν)}
    (h : fs.length = is.length) : (mendedFields schema fs is).length = is.length := by
  induction fs generalizing is with
  | nil =>
    obtain rfl := List.length_eq_zero_iff.mp h.symm
    rfl
  | cons f fs ih =>
    cases is with
    | nil => cases h
    | cons i is => simpa [mendedFields] using ih (by simpa using h)

theorem mendedAs_optional (s : Shape ν) (i : Instance ν) :
    i.mendedAs schema (.optional s) = i.mendedAs schema s := by
  cases i <;> rfl

@[simp] theorem isNull_mendedAs (s : Shape ν) (i : Instance ν) :
    (i.mendedAs schema s).isNull = i.isNull := by
  cases i with
  | plain v =>
    rcases mended_cases v s with h | ⟨es, rfl, h⟩
    · rw [mendedAs, h]
    · rw [mendedAs, h]
      rfl
  | _ => rfl

/-- A value of an absent field has no keys to mend. -/
theorem mendedAs_ofValue {s : Shape ν} {d : Value} (h : d = .null ∨ s.stands d = true) :
    (ofValue d : Instance ν).mendedAs schema s = .ofValue d := by
  rcases h with rfl | h
  · rw [ofValue, mendedAs, mended_null]
    exact fun _ => Value.noConfusion
  · cases d with
    | list vs =>
      cases s <;> simp only [stands, Bool.false_eq_true] at h
      simp only [Bool.and_eq_true, List.all_eq_true] at h
      rw [ofValue, mendedAs, mendedAll_eq, List.map_map]
      congr 1
      refine List.map_congr_left fun v hv => ?_
      exact congrArg plain (mended_of_stands (h.2 v hv).2)
    | _ => exact congrArg plain (mended_of_stands h)

section Rule

variable (s : Shape ν) (i : Instance ν)

variable (schema) in
/-- A field of what is mended is mended as a field. -/
theorem field_mendedAs (name : String) : ∃ s',
    (i.mendedAs schema s).field schema name = (i.field schema name).mendedAs schema s' := by
  have null : ∃ s', plain .null = (plain .null : Instance ν).mendedAs schema s' :=
    ⟨.any, by rw [mendedAs, mended_null]⟩
  cases i with
  | model n given values =>
    rw [mendedAs, field, field, zip_mendedFields, List.find?_map]
    have hp : ((fun p => p.1.name == name) ∘ fun p => (p.1, p.2.mendedAs schema p.1.shape) :
        Field ν × Instance ν → Bool) = fun p => p.1.name == name := rfl
    rw [hp]
    cases ((schema n).fields.zip values).find? (·.1.name == name) with
    | none => exact null
    | some p => exact ⟨p.1.shape, rfl⟩
  | _ => exact null

theorem text?_mendedAs : (i.mendedAs schema s).text? = i.text? := by
  cases i with
  | plain v =>
    rcases mended_cases v s with h | ⟨es, rfl, h⟩
    · rw [mendedAs, h]
    · rw [mendedAs, h]
      rfl
  | _ => rfl

theorem text_mendedAs : (i.mendedAs schema s).text = i.text := by
  rw [text, text, text?_mendedAs]

theorem isPart_mendedAs : isPart (i.mendedAs schema s) = isPart i := by
  cases i with
  | plain v =>
    rcases mended_cases v s with h | ⟨es, rfl, h⟩
    · rw [mendedAs, h]
    · have hempty : (Value.mendKeys es).isEmpty = es.isEmpty := by
        rw [Bool.eq_iff_iff, List.isEmpty_iff, List.isEmpty_iff, Value.mendKeys_eq_nil]
      rw [mendedAs, h]
      simp [isPart, Value.truthy, hempty]
  | _ => rfl

/-- Rules do not look at keys. -/
theorem ruleFault?_mendedAs (r : Rule) :
    ruleFault? schema r (i.mendedAs schema s) = ruleFault? schema r i := by
  have text_field (name : String) :
      ((i.mendedAs schema s).field schema name).text = (i.field schema name).text := by
    obtain ⟨s', h⟩ := field_mendedAs schema s i name
    rw [h, text_mendedAs]
  have isPart_field (name : String) :
      isPart ((i.mendedAs schema s).field schema name) = isPart (i.field schema name) := by
    obtain ⟨s', h⟩ := field_mendedAs schema s i name
    rw [h, isPart_mendedAs]
  have isNull_field (name : String) :
      ((i.mendedAs schema s).field schema name).isNull = (i.field schema name).isNull := by
    obtain ⟨s', h⟩ := field_mendedAs schema s i name
    rw [h, isNull_mendedAs]
  have text?_field (outer inner : String) :
      (((i.mendedAs schema s).field schema outer).field schema inner).text? =
        ((i.field schema outer).field schema inner).text? := by
    obtain ⟨s', h⟩ := field_mendedAs schema s i outer
    obtain ⟨s'', h'⟩ := field_mendedAs schema s' (i.field schema outer) inner
    rw [h, h', text?_mendedAs]
  cases r <;> simp only [ruleFault?, text_field, isPart_field, isNull_field, text?_field]

end Rule

/-- What was read is read also with its keys mended, from another value. -/
theorem exists_reads_mendedAs (hs : schema.Faithful) {l : Nat} {s : Shape ν} {v : Value}
    {i : Instance ν}
    (h : Reads schema l s v i) : ∃ w, Reads schema l s w (i.mendedAs schema s) := by
  induction h with
  | @plain l s v w hp hc =>
    rcases mended_cases w s with h | ⟨es, rfl, h⟩
    · exact ⟨v, by rw [mendedAs, h]; exact .plain hp hc⟩
    · cases s with
      | mapping => exact ⟨_, .plain rfl (checker_mapping_obj l (Value.mendKeys es))⟩
      | optional => simp [isPlain] at hp
      | _ => exact ⟨v, .plain hp hc⟩
  | null => exact ⟨.null, by rw [mendedAs, mended_null]; exact .null⟩
  | @some l s v i hi _ ih =>
    obtain ⟨w, hw⟩ := ih
    exact ⟨w, by rw [mendedAs_optional]; exact .some (by rwa [isNull_mendedAs]) hw⟩
  | @list l least s v is origin hl _ _ ih =>
    have each : ∀ j ∈ is.map (mendedAs schema s), ∃ w, Reads schema l s w j := by
      rw [List.forall_mem_map]
      exact ih
    choose! origin' hread using each
    refine ⟨.list ((is.map (mendedAs schema s)).map origin'), ?_⟩
    rw [mendedAs, part, mendedAll_eq]
    exact .list origin' (by simpa using hl) (fun j hj => List.mem_map_of_mem hj) hread
  | @table l s v es origin _ _ ih =>
    have each : ∀ e ∈ Value.mendKeys (es.map fun e => (e.1, e.2.mendedAs schema s)),
        ∃ w, Reads schema l s w e.2 := by
      intro e he
      obtain ⟨-, d, hd, heq⟩ := Value.mem_mendKeys he
      obtain ⟨d', hd', rfl⟩ := List.mem_map.mp hd
      exact heq ▸ ih d' hd'
    choose! origin' hread using each
    refine ⟨.list ((Value.mendKeys (es.map fun e => (e.1, e.2.mendedAs schema s))).map origin'), ?_⟩
    rw [mendedAs, part, mendedEntries_eq]
    exact .table origin' (fun e he => List.mem_map_of_mem he) hread
  | @model l n v given values origin hl hlen _ _ hr ih =>
    have zipped := zip_mendedFields schema (schema n).fields values
    have each : ∀ p ∈ (schema n).fields.zip (mendedFields schema (schema n).fields values),
        (∀ d, p.1.fallback = Option.some d → p.2 ≠ .ofValue d) →
        ∃ w, Reads schema (l - (schema n).level - p.1.level) p.1.shape w p.2 := by
      rw [zipped, List.forall_mem_map]
      intro p hp hne
      refine ih p hp fun d hd he => hne d hd ?_
      have hsettled := Field.null_or_stands (hs.settled n p.1 (List.of_mem_zip hp).1) hd
      simpa only [he] using mendedAs_ofValue hsettled
    choose! origin' hread using each
    refine ⟨.list (((schema n).fields.zip (mendedFields schema (schema n).fields values)).map
      origin'), ?_⟩
    refine .model origin' hl (hlen.trans (length_mendedFields hlen).symm)
      (fun p hp _ => List.mem_map_of_mem hp) hread ?_
    have rules : (ruleFault? schema · (model n given
        (mendedFields schema (schema n).fields values))) =
        (ruleFault? schema · (model n given values)) :=
      funext (ruleFault?_mendedAs (.model n) (model n given values))
    rw [rules, hr]
  | @tagged l tag t choices n v given values f hc hmem hw _ ih =>
    obtain ⟨w, hread⟩ := ih
    refine ⟨w, .tagged hc ?_ hw hread⟩
    rw [zip_mendedFields]
    refine List.mem_map.mpr ⟨_, hmem, ?_⟩
    simp [mendedAs]

/-- Where JSON can say every free value as it is, the instance is written as it stands with its keys
mended. -/
theorem wireAs_eq_dump_mendedAs {i : Instance ν} {s : Shape ν}
    (hf : ∀ u ∈ i.freeValuesAs schema s, u.Sayable) :
    i.wireAs schema s = (i.mendedAs schema s).dump schema := by
  have plain_eq {v : Value} {s : Shape ν} (hf : ∀ u ∈ s.freeValues v, u.Sayable) :
      s.written v = s.mended v := by
    induction s with
    | any => exact (hf v (by simp [freeValues])).toJson
    | mapping =>
      cases v with
      | obj es =>
        have same : (Value.obj es).toJson = .obj es :=
          (Value.sayable_obj.mpr fun e he => hf e.2 (List.mem_map_of_mem he)).toJson
        rw [Value.toJson] at same
        rw [Shape.written, mended, Value.obj.inj same]
      | _ => rfl
    | optional inner ih => exact ih hf
    | _ => rfl
  induction i using Instance.induction generalizing s with
  | plain v => exact plain_eq hf
  | list is ih =>
    rw [freeValuesAs, freeInAll_eq] at hf
    rw [wireAs, mendedAs, dump, wireAll_eq, mendedAll_eq, dumpAll_eq, List.map_map]
    congr 1
    exact List.map_congr_left fun i hi => ih i hi fun u hu =>
      hf u (List.mem_flatMap.mpr ⟨i, hi, hu⟩)
  | table es ih =>
    rw [freeValuesAs, freeInEntries_eq] at hf
    have each : wireEntries schema s.part es =
        (mendedEntries schema s.part es).map fun e => (e.1, e.2.dump schema) := by
      rw [wireEntries_eq, mendedEntries_eq, List.map_map]
      exact List.map_congr_left fun e he =>
        congrArg (e.1, ·) (ih e he fun u hu => hf u (List.mem_flatMap.mpr ⟨e, he, hu⟩))
    rw [wireAs, mendedAs, dump, dumpEntries_eq, each, Value.mendKeys_map]
  | model n given values ih =>
    rw [freeValuesAs] at hf
    rw [wireAs, mendedAs, dump_model]
    congr 1
    generalize (schema n).fields = fs at hf
    induction fs generalizing values with
    | nil => simp [wireFields, written, present]
    | cons f fs ihs =>
      cases values with
      | nil => simp [wireFields, written, mendedFields, present]
      | cons i is =>
        rw [freeInFields, List.forall_mem_append] at hf
        rw [List.forall_mem_cons] at ih
        rw [wireFields, mendedFields, written_cons, isNull_mendedAs, ih.1 hf.1, ihs is ih.2 hf.2]

end Instance
end SchemaIntents
