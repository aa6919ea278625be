import SchemaIntents.Proofs.Shape.Rereading
import SchemaIntents.Proofs.Value.Json

/-! Instances that were read from JSON, and what JSON can say of them. -/
namespace SchemaIntents

variable {ν : Type} {schema : Schema ν}

namespace Shape

theorem exists_obj_of_checker {l : Nat} {n : ν} {v : Value} {i : Instance ν} (hv : v.IsJson)
    (h : v.checker schema l (.model n) = .ok i) : ∃ es, v = .obj es := by
  cases hv with
  | @obj entries => exact ⟨entries, rfl⟩
  | _ => exact absurd h Checked.fail_ne_ok

theorem exists_list_of_checker {l least : Nat} {s : Shape ν} {v : Value} {i : Instance ν}
    (hv : v.IsJson) (h : v.checker schema l (.list least s) = .ok i) : ∃ vs, v = .list vs := by
  cases hv with
  | @list items => exact ⟨items, rfl⟩
  | _ => exact absurd h Checked.fail_ne_ok

/-- The values that stand free in a value of a shape: each may be anything. -/
def freeValues (v : Value) : Shape ν → List Value
  | any => [v]
  | mapping =>
    match v with
    | .obj entries => entries.map (·.2)
    | _ => []
  | optional inner => inner.freeValues v
  | _ => []

/-- JSON can say a value from JSON just when no free value in it is too deep, unless a key in one of
these has halves of pairs. -/
theorem jsonFault?_eq {v : Value} (h : v.IsJson) {s : Shape ν}
    (hkeys : ∀ u ∈ s.freeValues v, u.keysWhole = true) :
    s.jsonFault? v = Value.roomFault ((s.freeValues v).all (·.depth ≤ Value.depthLimit)) := by
  induction s with
  | any =>
    have hv : v.keysWhole = true := hkeys v (by simp [freeValues])
    simpa [jsonFault?, freeValues] using Value.faultIn?_of_isJson h hv _
  | mapping =>
    cases h with
    | @obj entries h =>
      have each : ∀ u ∈ entries.map (·.2), Value.faultIn? Value.depthLimit u =
          Value.roomFault (u.depth ≤ Value.depthLimit) := by
        intro u hu
        obtain ⟨e, he, rfl⟩ := List.mem_map.mp hu
        exact Value.faultIn?_of_isJson (h e he) (hkeys _ hu) _
      rw [jsonFault?, Value.faultInAll?_eq each]
      congr 1
      rw [Bool.eq_iff_iff, decide_eq_true_iff, Value.depthAll_le, List.all_eq_true]
      simp [freeValues]
    | _ => rfl
  | optional inner ih => exact ih hkeys
  | _ => rfl

end Shape

namespace Instance

/-- All plain values in an instance have a property. -/
def HoldsOnly (p : Value → Prop) (i : Instance ν) : Prop :=
  ∀ w, Within (.plain w) i → p w

section HoldsOnly

variable {p : Value → Prop}

@[simp] theorem holdsOnly_plain {v : Value} : (plain v : Instance ν).HoldsOnly p ↔ p v := by
  constructor
  · intro h
    exact h v (.self _)
  · intro h w hw
    cases hw
    exact h

@[simp] theorem holdsOnly_list {is : List (Instance ν)} :
    (list is).HoldsOnly p ↔ ∀ i ∈ is, i.HoldsOnly p := by
  constructor
  · intro h i hi w hw
    exact h w (.item hi hw)
  · intro h w hw
    cases hw with
    | item hi hw => exact h _ hi w hw

@[simp] theorem holdsOnly_table {es : List (String × Instance ν)} :
    (table es).HoldsOnly p ↔ ∀ e ∈ es, e.2.HoldsOnly p := by
  constructor
  · intro h e he w hw
    exact h w (.entry he hw)
  · intro h w hw
    cases hw with
    | entry he hw => exact h _ he w hw

@[simp] theorem holdsOnly_model {n : ν} {given : List Bool} {values : List (Instance ν)} :
    (model n given values).HoldsOnly p ↔ ∀ i ∈ values, i.HoldsOnly p := by
  constructor
  · intro h i hi w hw
    exact h w (.field hi hw)
  · intro h w hw
    cases hw with
    | field hi hw => exact h _ hi w hw

theorem holdsOnly_ofValue {d : Value} (hd : p d) (hc : ∀ w ∈ d.children, p w) :
    (ofValue d : Instance ν).HoldsOnly p := by
  cases d <;> simp_all [ofValue, Value.children]

theorem HoldsOnly.field {i : Instance ν} (h : i.HoldsOnly p) (hnull : p .null) (name : String) :
    (i.field schema name).HoldsOnly p := by
  cases i with
  | model n given values =>
    rw [holdsOnly_model] at h
    cases hf : ((schema n).fields.zip values).find? (·.1.name == name) with
    | none => simpa [Instance.field, hf] using hnull
    | some e =>
      simp only [Instance.field, hf]
      exact h _ (List.of_mem_zip (List.mem_of_find?_eq_some hf)).2
  | _ => simpa [Instance.field] using hnull

theorem HoldsOnly.of_mem_items {i j : Instance ν} (h : i.HoldsOnly p) (hj : j ∈ i.items) :
    j.HoldsOnly p := by
  cases i with
  | list is => exact holdsOnly_list.mp h j hj
  | _ => simp [items] at hj

end HoldsOnly

mutual

/-- Whether all floats in an instance are finite. -/
def floatsFinite : Instance ν → Bool
  | plain v => v.isFinite
  | list is => floatsFiniteAll is
  | table es => floatsFiniteEntries es
  | model _ _ values => floatsFiniteAll values

def floatsFiniteAll : List (Instance ν) → Bool
  | [] => true
  | i :: is => i.floatsFinite && floatsFiniteAll is

def floatsFiniteEntries : List (String × Instance ν) → Bool
  | [] => true
  | (_, i) :: rest => i.floatsFinite && floatsFiniteEntries rest

end

theorem floatsFiniteAll_eq (is : List (Instance ν)) :
    floatsFiniteAll is = is.all floatsFinite := by
  induction is with
  | nil => rfl
  | cons i is ih => simp [floatsFiniteAll, ih]

theorem floatsFiniteEntries_eq (es : List (String × Instance ν)) :
    floatsFiniteEntries es = es.all (·.2.floatsFinite) := by
  induction es with
  | nil => rfl
  | cons e es ih => obtain ⟨k, i⟩ := e; simp [floatsFiniteEntries, ih]

theorem holdsOnly_isFinite {i : Instance ν} :
    i.HoldsOnly (·.isFinite = true) ↔ i.floatsFinite = true := by
  induction i using Instance.induction with
  | plain v => simp [floatsFinite]
  | list is ih =>
    rw [holdsOnly_list, floatsFinite, floatsFiniteAll_eq, List.all_eq_true]
    exact forall₂_congr ih
  | table es ih =>
    rw [holdsOnly_table, floatsFinite, floatsFiniteEntries_eq, List.all_eq_true]
    exact forall₂_congr ih
  | model n given values ih =>
    rw [holdsOnly_model, floatsFinite, floatsFiniteAll_eq, List.all_eq_true]
    exact forall₂_congr ih

mutual

/-- Whether no key of a table or in a plain value of an instance has halves of pairs. -/
def keysWhole : Instance ν → Bool
  | plain v => v.keysWhole
  | list is => keysWholeAll is
  | table es => keysWholeEntries es
  | model _ _ values => keysWholeAll values

def keysWholeAll : List (Instance ν) → Bool
  | [] => true
  | i :: is => i.keysWhole && keysWholeAll is

def keysWholeEntries : List (String × Instance ν) → Bool
  | [] => true
  | (k, i) :: rest => !Text.isTorn k && (i.keysWhole && keysWholeEntries rest)

end

theorem keysWholeAll_eq_true {is : List (Instance ν)} :
    keysWholeAll is = true ↔ ∀ i ∈ is, i.keysWhole = true := by
  induction is with
  | nil => simp [keysWholeAll]
  | cons i is ih => rw [keysWholeAll, Bool.and_eq_true, ih, List.forall_mem_cons]

theorem keysWholeEntries_eq_true {es : List (String × Instance ν)} :
    keysWholeEntries es = true ↔ ∀ e ∈ es, Text.isTorn e.1 = false ∧ e.2.keysWhole = true := by
  induction es with
  | nil => simp [keysWholeEntries]
  | cons e es ih =>
    obtain ⟨k, i⟩ := e
    rw [keysWholeEntries, Bool.and_eq_true, Bool.and_eq_true, ih, List.forall_mem_cons, and_assoc,
      Bool.not_eq_true']

theorem keysWhole_field {i : Instance ν} (h : i.keysWhole = true) (name : String) :
    (i.field schema name).keysWhole = true := by
  cases i with
  | model n given values =>
    rw [field]
    split
    · rename_i hfind
      rw [keysWhole, keysWholeAll_eq_true] at h
      exact h _ (List.of_mem_zip (List.mem_of_find?_eq_some hfind)).2
    · rfl
  | _ => rfl

theorem isTorn_of_mem_entries {i : Instance ν} (h : i.keysWhole = true) {e : String × Instance ν}
    (he : e ∈ i.entries) : Text.isTorn e.1 = false := by
  cases i with
  | table es =>
    rw [keysWhole, keysWholeEntries_eq_true] at h
    exact (h e he).1
  | _ => simp [entries] at he

theorem isJson_of_mem_children {v w : Value} (hv : v.IsJson) (h : w ∈ v.children) : w.IsJson := by
  cases hv with
  | list hv => exact hv w h
  | obj hv =>
    obtain ⟨e, he, rfl⟩ := List.mem_map.mp h
    exact hv e he
  | _ => simp [Value.children] at h

/-- What a plain shape makes of a value from JSON is the value itself, or a text, truth value or
number. -/
theorem eq_or_of_plain {l : Nat} {s : Shape ν} {v w : Value} (hv : v.IsJson) (hs : s.isPlain = true)
    (h : v.checker schema l s = .ok (.plain w)) :
    w = v ∨ (∃ t, w = .str t) ∨ (∃ b, w = .bool b) ∨ (∃ n, w = .int n) ∨ ∃ x, w = .float x := by
  cases s with
  | any => exact .inl (plain.inj (Except.ok.inj h)).symm
  | text least most pattern =>
    obtain ⟨t, -, -, ht⟩ := Shape.readWith_eq_ok.mp h
    exact .inr (.inl ⟨t, plain.inj ht⟩)
  | flag =>
    obtain ⟨b, -, hb⟩ := Shape.ofReader_eq_ok.mp h
    exact .inr (.inr (.inl ⟨b, plain.inj hb⟩))
  | whole bounds =>
    obtain ⟨n, -, -, hn⟩ := Shape.readWith_eq_ok.mp h
    exact .inr (.inr (.inr (.inl ⟨n, plain.inj hn⟩)))
  | real =>
    obtain ⟨x, -, hx⟩ := Shape.ofReader_eq_ok.mp h
    exact .inr (.inr (.inr (.inr ⟨x, plain.inj hx⟩)))
  | scalar =>
    simp only [Value.checker, Shape.checkParts] at h
    split at h
    · exact .inl (plain.inj (Except.ok.inj h)).symm
    · simp at h
  | oneOf words =>
    obtain ⟨t, -, -, ht⟩ := Shape.checker_oneOf_eq_ok.mp h
    exact .inl (plain.inj ht)
  | mapping =>
    have hw := plain.inj (Shape.eq_of_checker_mapping h).1
    rw [Shape.withTextKeys_eq_self (by rintro es rfl; cases hv)] at hw
    exact .inl hw
  | _ => simp [Shape.isPlain] at hs

/-- What a plain shape makes of a value from JSON could have come from JSON. -/
theorem isJson_of_plain {l : Nat} {s : Shape ν} {v w : Value} (hv : v.IsJson)
    (hs : s.isPlain = true) (h : v.checker schema l s = .ok (.plain w)) : w.IsJson := by
  rcases eq_or_of_plain hv hs h with rfl | ⟨t, rfl⟩ | ⟨b, rfl⟩ | ⟨n, rfl⟩ | ⟨x, rfl⟩
  · exact hv
  · exact .str t
  · exact .bool b
  · exact .int n
  · exact .float x

theorem isJson_of_stands {s : Shape ν} {d : Value} (h : s.stands d = true) : d.IsJson := by
  induction s generalizing d with
  | list least item ih =>
    cases d <;> simp only [Shape.stands, Bool.false_eq_true] at h
    simp only [Bool.and_eq_true, List.all_eq_true] at h
    exact .list fun v hv => ih (h.2 v hv).2
  | mapping =>
    cases d with
    | obj es =>
      cases es with
      | nil => exact .obj (by simp)
      | cons e es => simp [Shape.stands] at h
    | _ => simp [Shape.stands] at h
  | _ => cases d <;> simp [Shape.stands] at h <;> constructor

/-- What a reading holds has a property, if what a plain shape makes of a part of the value has it,
and what stands for absent fields has it. -/
theorem holdsOnly_of_reads {p q : Value → Prop}
    (hchild : ∀ {v w : Value}, q v → w ∈ v.children → q w)
    (hplain : ∀ {l : Nat} {s : Shape ν} {v w : Value}, q v → s.isPlain = true →
      v.checker schema l s = .ok (.plain w) → p w)
    (hnull : p .null)
    (hfallback : ∀ n, ∀ f ∈ (schema n).fields, ∀ d, f.fallback = some d →
      (ofValue d : Instance ν).HoldsOnly p)
    {l : Nat} {s : Shape ν} {v : Value} {i : Instance ν} (hv : q v) (h : Reads schema l s v i) :
    i.HoldsOnly p := by
  induction h with
  | plain hs hc => exact holdsOnly_plain.mpr (hplain hv hs hc)
  | null => exact holdsOnly_plain.mpr hnull
  | some _ _ ih => exact ih hv
  | list origin _ ho _ ih => exact holdsOnly_list.mpr fun i hi => ih i hi (hchild hv (ho i hi))
  | table origin ho _ ih => exact holdsOnly_table.mpr fun e he => ih e he (hchild hv (ho e he))
  | @model l n v given values origin _ hlen ho _ _ ih =>
    refine holdsOnly_model.mpr fun i hi => ?_
    obtain ⟨f, hf⟩ := Shape.exists_zip_of_mem_right hlen hi
    by_cases hfb : ∃ d, f.fallback = some d ∧ i = .ofValue d
    · obtain ⟨d, hfd, rfl⟩ := hfb
      exact hfallback n f (List.of_mem_zip hf).1 d hfd
    · have hne : ∀ d, f.fallback = some d → i ≠ .ofValue d := fun d hfd he => hfb ⟨d, hfd, he⟩
      exact ih _ hf hne (hchild hv (ho _ hf hne))
  | tagged _ _ _ _ ih => exact ih hv

/-- What is read from JSON holds only what JSON can hold. -/
theorem isJson_of_reads (hs : schema.Faithful) {l : Nat} {s : Shape ν} {v : Value}
    {i : Instance ν} (hv : v.IsJson) (h : Reads schema l s v i) :
    i.HoldsOnly Value.IsJson := by
  refine holdsOnly_of_reads isJson_of_mem_children isJson_of_plain .null
    (fun n f hf d hd => ?_) hv h
  have hdj : d.IsJson := by
    rcases Field.null_or_stands (hs.settled n f hf) hd with rfl | hst
    · exact .null
    · exact isJson_of_stands hst
  exact holdsOnly_ofValue hdj fun w hw => isJson_of_mem_children hdj hw

theorem wireFields_eq {fs : List (Field ν)} {is : List (Instance ν)}
    (h : ∀ p ∈ fs.zip is, p.2.wireAs schema p.1.shape = p.2.dump schema) :
    wireFields schema fs is = written schema fs is := by
  induction fs generalizing is with
  | nil => simp [wireFields, written, present]
  | cons f fs ih =>
    cases is with
    | nil => simp [wireFields, written, present]
    | cons i is =>
      simp only [List.zip_cons_cons, List.forall_mem_cons] at h
      rw [wireFields, written_cons, ih h.2, h.1]

/-- A value that JSON can say as it is, and whose keys have no halves of pairs, is written as it
stands. -/
theorem written_eq_self {v : Value} (h : v.toJson = v) (hkeys : v.keysWhole = true) (s : Shape ν) :
    s.written v = v := by
  induction s with
  | any => exact h
  | mapping =>
    cases v with
    | obj es =>
      have hall := Value.passes_obj.mp hkeys
      rw [Value.toJson] at h
      rw [Shape.written, Value.obj.inj h,
        Value.mendKeys_eq_self fun e he => by simpa using (hall e he).1]
    | _ => rfl
  | optional inner ih => exact ih
  | _ => rfl

/-- Where JSON can say every value as it is, and no key has halves of pairs, the instance is written
as it stands. -/
theorem wireAs_eq_dump {i : Instance ν} (h : i.HoldsOnly fun w => w.toJson = w)
    (hkeys : i.keysWhole = true) (s : Shape ν) : i.wireAs schema s = i.dump schema := by
  induction i using Instance.induction generalizing s with
  | plain v =>
    rw [holdsOnly_plain] at h
    exact written_eq_self h hkeys s
  | list is ih =>
    rw [holdsOnly_list] at h
    rw [keysWhole, keysWholeAll_eq_true] at hkeys
    rw [wireAs, dump, wireAll_eq, dumpAll_eq,
      List.map_congr_left fun i hi => ih i hi (h i hi) (hkeys i hi) s.part]
  | table es ih =>
    rw [holdsOnly_table] at h
    rw [keysWhole, keysWholeEntries_eq_true] at hkeys
    have same : wireEntries schema s.part es = dumpEntries schema es := by
      rw [wireEntries_eq, dumpEntries_eq]
      exact List.map_congr_left fun e he => by rw [ih e he (h e he) (hkeys e he).2 s.part]
    have untorn : ∀ e ∈ dumpEntries schema es, Text.isTorn e.1 = false := by
      rw [dumpEntries_eq, List.forall_mem_map]
      exact fun e he => (hkeys e he).1
    rw [wireAs, dump, same, Value.mendKeys_eq_self untorn]
  | model n given values ih =>
    rw [holdsOnly_model] at h
    rw [keysWhole, keysWholeAll_eq_true] at hkeys
    rw [wireAs, dump_model, wireFields_eq]
    intro p hp
    have hv := (List.of_mem_zip hp).2
    exact ih p.2 hv (h p.2 hv) (hkeys p.2 hv) p.1.shape

mutual

/-- The values that stand free in an instance of a shape. -/
def freeValuesAs (schema : Schema ν) (s : Shape ν) : Instance ν → List Value
  | plain v => s.freeValues v
  | list is => freeInAll schema s.part is
  | table es => freeInEntries schema s.part es
  | model n _ values => freeInFields schema (schema n).fields values

def freeInAll (schema : Schema ν) (s : Shape ν) : List (Instance ν) → List Value
  | [] => []
  | i :: is => i.freeValuesAs schema s ++ freeInAll schema s is

def freeInEntries (schema : Schema ν) (s : Shape ν) : List (String × Instance ν) → List Value
  | [] => []
  | (_, i) :: rest => i.freeValuesAs schema s ++ freeInEntries schema s rest

def freeInFields (schema : Schema ν) : List (Field ν) → List (Instance ν) → List Value
  | f :: fs, i :: is => i.freeValuesAs schema f.shape ++ freeInFields schema fs is
  | _, _ => []

end

theorem freeInAll_eq (s : Shape ν) (is : List (Instance ν)) :
    freeInAll schema s is = is.flatMap (freeValuesAs schema s) := by
  induction is with
  | nil => rfl
  | cons i is ih => rw [freeInAll, ih, List.flatMap_cons]

theorem freeInEntries_eq (s : Shape ν) (es : List (String × Instance ν)) :
    freeInEntries schema s es = es.flatMap fun e => e.2.freeValuesAs schema s := by
  induction es with
  | nil => rfl
  | cons e es ih =>
    obtain ⟨k, i⟩ := e
    rw [freeInEntries, ih, List.flatMap_cons]

/-- The fault of free values: none, if there is room for all of them. -/
def freeFault (vs : List Value) : Option JsonFault :=
  Value.roomFault (vs.all (·.depth ≤ Value.depthLimit))

theorem freeFault_append (vs ws : List Value) :
    freeFault (vs ++ ws) = (freeFault vs).or (freeFault ws) := by
  simp [freeFault, Value.roomFault_or]

theorem freeFault_eq_none {vs : List Value} :
    freeFault vs = none ↔ ∀ v ∈ vs, v.depth ≤ Value.depthLimit := by
  simp [freeFault, Value.roomFault]

theorem freeFault_eq_some {vs : List Value} (h : ∃ v ∈ vs, Value.depthLimit < v.depth) :
    freeFault vs = some .tooDeep := by
  obtain ⟨v, hv, hd⟩ := h
  have hall : vs.all (·.depth ≤ Value.depthLimit) = false := by
    rw [List.all_eq_false]
    exact ⟨v, hv, by simpa using hd⟩
  rw [freeFault, hall]
  rfl

theorem faultFields?_eq {fs : List (Field ν)} {is : List (Instance ν)}
    (h : ∀ p ∈ fs.zip is, p.2.faultAs? schema p.1.shape =
      freeFault (p.2.freeValuesAs schema p.1.shape)) :
    faultFields? schema fs is = freeFault (freeInFields schema fs is) := by
  induction fs generalizing is with
  | nil => simp [faultFields?, freeInFields, freeFault, Value.roomFault]
  | cons f fs ih =>
    cases is with
    | nil => simp [faultFields?, freeInFields, freeFault, Value.roomFault]
    | cons i is =>
      rw [List.zip_cons_cons, List.forall_mem_cons] at h
      rw [faultFields?, freeInFields, freeFault_append, h.1, ih h.2]

/-- Free values are parts of the plain values of an instance, and have no other keys. -/
theorem keysWhole_of_mem_freeValues {v u : Value} (h : v.keysWhole = true) {s : Shape ν}
    (hu : u ∈ s.freeValues v) : u.keysWhole = true := by
  induction s with
  | any =>
    obtain rfl : u = v := by simpa [Shape.freeValues] using hu
    exact h
  | mapping =>
    cases v with
    | obj es =>
      obtain ⟨e, he, rfl⟩ := List.mem_map.mp hu
      exact (Value.passes_obj.mp h e he).2
    | _ => simp [Shape.freeValues] at hu
  | optional inner ih => exact ih hu
  | _ => simp [Shape.freeValues] at hu

/-- JSON can say an instance that was read from JSON, and whose keys have no halves of pairs, just
when no free value in it is too deep. -/
theorem faultAs?_eq {i : Instance ν} (h : i.HoldsOnly Value.IsJson) (hkeys : i.keysWhole = true)
    (s : Shape ν) : i.faultAs? schema s = freeFault (i.freeValuesAs schema s) := by
  induction i using Instance.induction generalizing s with
  | plain v =>
    rw [holdsOnly_plain] at h
    exact Shape.jsonFault?_eq h fun u hu => keysWhole_of_mem_freeValues hkeys hu
  | list is ih =>
    rw [holdsOnly_list] at h
    rw [keysWhole, keysWholeAll_eq_true] at hkeys
    rw [faultAs?, freeValuesAs]
    induction is with
    | nil => rfl
    | cons i is ihs =>
      rw [List.forall_mem_cons] at h ih hkeys
      rw [faultAll?, freeInAll, freeFault_append, ih.1 h.1 hkeys.1, ihs ih.2 h.2 hkeys.2]
  | table es ih =>
    rw [holdsOnly_table] at h
    rw [keysWhole, keysWholeEntries_eq_true] at hkeys
    rw [faultAs?, freeValuesAs]
    induction es with
    | nil => rfl
    | cons e es ihs =>
      obtain ⟨k, i⟩ := e
      rw [List.forall_mem_cons] at h ih hkeys
      rw [faultEntries?, freeInEntries, freeFault_append, ih.1 h.1 hkeys.1.2, ihs ih.2 h.2 hkeys.2]
  | model n given values ih =>
    rw [holdsOnly_model] at h
    rw [keysWhole, keysWholeAll_eq_true] at hkeys
    refine faultFields?_eq fun p hp => ?_
    have hv := (List.of_mem_zip hp).2
    exact ih p.2 hv (h p.2 hv) (hkeys p.2 hv) p.1.shape

theorem wireFields_bare {fs : List (Field ν)} {is : List (Instance ν)}
    (h : ∀ i ∈ is, ∀ s, i.bare.wireAs schema s = i.wireAs schema s) :
    wireFields schema fs (is.map bare) = wireFields schema fs is := by
  induction fs generalizing is with
  | nil => simp [wireFields]
  | cons f fs ih =>
    cases is with
    | nil => rfl
    | cons i is =>
      rw [List.forall_mem_cons] at h
      rw [List.map_cons, wireFields, wireFields, isNull_bare, h.1, ih h.2]

theorem wireAs_bare (i : Instance ν) (s : Shape ν) :
    i.bare.wireAs schema s = i.wireAs schema s := by
  induction i using Instance.induction generalizing s with
  | plain v => rfl
  | list is ih =>
    rw [bare_list, wireAs, wireAs, wireAll_eq, wireAll_eq, List.map_map]
    congr 1
    exact List.map_congr_left fun i hi => ih i hi s.part
  | table es ih =>
    rw [bare_table, wireAs, wireAs, wireEntries_eq, wireEntries_eq, List.map_map]
    congr 2
    exact List.map_congr_left fun e he => congrArg (e.1, ·) (ih e he s.part)
  | model n given values ih => rw [bare_model, wireAs, wireAs, wireFields_bare ih]

theorem faultFields?_bare {fs : List (Field ν)} {is : List (Instance ν)}
    (h : ∀ i ∈ is, ∀ s, i.bare.faultAs? schema s = i.faultAs? schema s) :
    faultFields? schema fs (is.map bare) = faultFields? schema fs is := by
  induction fs generalizing is with
  | nil => simp [faultFields?]
  | cons f fs ih =>
    cases is with
    | nil => rfl
    | cons i is =>
      rw [List.forall_mem_cons] at h
      rw [List.map_cons, faultFields?, faultFields?, h.1, ih h.2]

theorem faultAs?_bare (i : Instance ν) (s : Shape ν) :
    i.bare.faultAs? schema s = i.faultAs? schema s := by
  induction i using Instance.induction generalizing s with
  | plain v => rfl
  | list is ih =>
    rw [bare_list, faultAs?, faultAs?]
    induction is with
    | nil => rfl
    | cons i is ihs =>
      rw [List.forall_mem_cons] at ih
      rw [List.map_cons, faultAll?, faultAll?, ih.1, ihs ih.2]
  | table es ih =>
    rw [bare_table, faultAs?, faultAs?]
    induction es with
    | nil => rfl
    | cons e es ihs =>
      obtain ⟨k, i⟩ := e
      rw [List.forall_mem_cons] at ih
      rw [List.map_cons, faultEntries?, faultEntries?, ih.1, ihs ih.2]
  | model n given values ih => rw [bare_model, faultAs?, faultAs?, faultFields?_bare ih]

/-- What an instance is written as does not depend on which fields were given. -/
theorem json_bare (i : Instance ν) : i.bare.json schema = i.json schema := by
  simp [json, jsonFault?, wire, faultAs?_bare, wireAs_bare]

section Read

variable {l : Nat} {s : Shape ν} {v : Value} {i : Instance ν}

theorem jsonFault?_of_reads (hs : schema.Faithful) (hv : v.IsJson) (h : Reads schema l s v i)
    (hkeys : i.keysWhole = true) : i.jsonFault? schema = freeFault (i.freeValuesAs schema .any) :=
  faultAs?_eq (isJson_of_reads hs hv h) hkeys .any

/-- What was read from JSON with finite floats, and without halves of pairs in its keys, is written
as it stands, if there is room for its free values. -/
theorem json_eq_dump (hs : schema.Faithful) (hv : v.IsJson) (h : Reads schema l s v i)
    (hf : i.floatsFinite = true) (hkeys : i.keysWhole = true)
    (hroom : ∀ u ∈ i.freeValuesAs schema .any, u.depth ≤ Value.depthLimit) :
    i.json schema = .ok (i.dump schema) := by
  have hj := isJson_of_reads hs hv h
  have same : i.HoldsOnly fun w => w.toJson = w :=
    fun w hw => Value.toJson_of_isJson (hj w hw) (holdsOnly_isFinite.mpr hf w hw)
  rw [json, jsonFault?_of_reads hs hv h hkeys, freeFault_eq_none.mpr hroom, wire,
    wireAs_eq_dump same hkeys]

theorem json_eq_error (hs : schema.Faithful) (hv : v.IsJson) (h : Reads schema l s v i)
    (hkeys : i.keysWhole = true)
    (hdeep : ∃ u ∈ i.freeValuesAs schema .any, Value.depthLimit < u.depth) :
    i.json schema = .error .tooDeep := by
  rw [json, jsonFault?_of_reads hs hv h hkeys, freeFault_eq_some hdeep]

end Read

end Instance
end SchemaIntents
