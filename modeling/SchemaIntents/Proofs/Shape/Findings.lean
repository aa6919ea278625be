import SchemaIntents.Proofs.Shape.Reading
import SchemaIntents.Proofs.Text.Points
import SchemaIntents.Value

/-! What checking finds in values that are put together from parts: nothing, or the issues of the
parts, each at its place. -/
namespace SchemaIntents

variable {ν : Type} {schema : Schema ν}

attribute [simp] Field.required Field.maybe Field.defaulted Field.constant Field.deeper

/-- An outcome is a result, or else just some issues. -/
def Finds {α : Type} (c : Except (List Issue) α) (issues : List Issue) : Prop :=
  match issues with
  | [] => ∃ a, c = .ok a
  | issues => c = .error issues

section Finds

variable {α : Type}

theorem finds_nil {c : Except (List Issue) α} : Finds c [] ↔ ∃ a, c = .ok a := Iff.rfl

@[simp] theorem finds_ok (a : α) (issues : List Issue) :
    Finds (.ok a : Except (List Issue) α) issues ↔ issues = [] := by
  cases issues <;> simp [Finds]

theorem finds_of_ne_nil {c : Except (List Issue) α} {issues : List Issue} (h : issues ≠ []) :
    Finds c issues ↔ c = .error issues := by
  cases issues with
  | nil => exact absurd rfl h
  | cons => rfl

/-- There is a result and nothing is found, or what is found is the outcome. -/
theorem Finds.ok_or_error {c : Except (List Issue) α} {issues : List Issue} (h : Finds c issues) :
    (∃ a, c = .ok a ∧ issues = []) ∨ (c = .error issues ∧ issues ≠ []) := by
  cases issues with
  | nil =>
    obtain ⟨a, ha⟩ := h
    exact .inl ⟨a, ha, rfl⟩
  | cons issue issues => exact .inr ⟨h, by simp⟩

theorem Finds.under {c : Checked ν} {issues : List Issue} (h : Finds c issues) (step : Step) :
    Finds (c.under step) (issues.map (·.under step)) := by
  rcases h.ok_or_error with ⟨i, rfl, rfl⟩ | ⟨rfl, hne⟩
  · exact ⟨i, rfl⟩
  · exact (finds_of_ne_nil (by simpa using hne)).mpr rfl

/-- Outcomes taken together find what each of them finds. -/
theorem finds_collect {β : Type} {g : β → Checked ν} {found : β → List Issue} {bs : List β}
    (h : ∀ b ∈ bs, Finds (g b) (found b)) :
    Finds (Checked.collect (bs.map g)) (bs.flatMap found) := by
  induction bs with
  | nil => exact ⟨[], rfl⟩
  | cons b bs ih =>
    rw [List.forall_mem_cons] at h
    simp only [List.map_cons, List.flatMap_cons, Checked.collect]
    rcases h.1.ok_or_error with ⟨i, hi, hnil⟩ | ⟨hi, hne⟩ <;>
      rcases (ih h.2).ok_or_error with ⟨is, his, hnils⟩ | ⟨his, hnes⟩
    · simp [hi, his, hnil, hnils]
    · simp [hi, his, hnil, finds_of_ne_nil hnes]
    · simp [hi, his, hnils, finds_of_ne_nil hne]
    · simp [hi, his, finds_of_ne_nil (List.append_ne_nil_of_left_ne_nil hne _)]

end Finds

namespace Shape

open Checked Value

/-- What is found in a list: the issues of its items, or else that they are too few. -/
def listIssues (least length : Nat) (found : List Issue) : List Issue :=
  if found = [] ∧ length < least then [⟨.tooFewItems least length, []⟩] else found

theorem finds_checkList {vs : List Value} {l least : Nat} {item : Shape ν}
    {found : Value × Nat → List Issue}
    (h : ∀ e ∈ vs.zipIdx, Finds (e.1.checker schema l item) (found e)) :
    Finds (checkList l least item (vs.map (checker schema))) (listIssues least vs.length
      (vs.zipIdx.flatMap fun e => (found e).map (·.under (.index e.2)))) := by
  have hc : Finds (collect (checkItems l item 0 (vs.map (checker schema))))
      (vs.zipIdx.flatMap fun e => (found e).map (·.under (.index e.2))) := by
    rw [checkItems_eq]
    exact finds_collect fun e he => (h e he).under (.index e.2)
  rw [checkList]
  rcases hc.ok_or_error with ⟨is, his, hnil⟩ | ⟨his, hne⟩
  · have hsame := ((collect_checkItems_eq_ok 0).mp his).length_eq
    rw [hnil]
    by_cases hlen : vs.length < least
    · simp [his, ← hsame, listIssues, hlen, Finds, fail]
    · simp [his, ← hsame, listIssues, hlen]
  · rw [listIssues, if_neg fun hshort => hne hshort.1, his]
    exact (finds_of_ne_nil hne).mpr rfl

/-- A list finds what its items find, each at its position. -/
theorem finds_list {vs : List Value} {l least : Nat} {item : Shape ν}
    {found : Value × Nat → List Issue} (hlen : least ≤ vs.length)
    (h : ∀ e ∈ vs.zipIdx, Finds (e.1.checker schema l item) (found e)) :
    Finds ((Value.list vs).checker schema l (.list least item))
      (vs.zipIdx.flatMap fun e => (found e).map (·.under (.index e.2))) := by
  have hissues : listIssues least vs.length (vs.zipIdx.flatMap fun e =>
      (found e).map (·.under (.index e.2))) = _ :=
    if_neg fun hshort => Nat.not_lt.mpr hlen hshort.2
  rw [checker_list_list, ← hissues]
  exact finds_checkList h

/-- A list of values that are made from something finds what these find, each at its position. -/
theorem finds_map {α : Type} {as : List α} {make : α → Value} {l least : Nat} {item : Shape ν}
    {found : α → List Issue} (hlen : least ≤ as.length)
    (h : ∀ a ∈ as, Finds ((make a).checker schema l item) (found a)) :
    Finds ((Value.list (as.map make)).checker schema l (.list least item))
      (as.zipIdx.flatMap fun e => (found e.1).map (·.under (.index e.2))) := by
  let foundAt (e : Value × Nat) : List Issue := (as[e.2]?.map found).getD []
  have same : as.zipIdx.flatMap (fun e => (found e.1).map (·.under (.index e.2))) =
      (as.map make).zipIdx.flatMap fun e => (foundAt e).map (·.under (.index e.2)) := by
    rw [List.zipIdx_map, List.flatMap_map]
    refine List.flatMap_congr fun e he => ?_
    simp [foundAt, List.mem_zipIdx_iff_getElem?.mp he]
  rw [same]
  refine finds_list (by simpa using hlen) fun e he => ?_
  have hget := List.mem_zipIdx_iff_getElem?.mp he
  rw [List.getElem?_map, Option.map_eq_some_iff] at hget
  obtain ⟨a, ha, hmade⟩ := hget
  rw [show foundAt e = found a by simp [foundAt, ha], ← hmade]
  exact h a (List.mem_of_getElem? ha)

/-- A table with text keys finds what its entries find, each at its key as it is shown. -/
theorem finds_table {es : List (String × Value)} {l : Nat} {entry : Shape ν}
    {found : String × Value → List Issue}
    (h : ∀ e ∈ es, Finds (e.2.checker schema l entry) (found e)) :
    Finds ((Value.obj es).checker schema l (.table entry))
      (es.flatMap fun e => (found e).map (·.under (.key (Text.mended e.1)))) := by
  have hc : Finds (collect (checkEntries l entry
      ((textKeyed es).map fun e => (e.1, e.2.checker schema))))
      (es.flatMap fun e => (found e).map (·.under (.key (Text.mended e.1)))) := by
    rw [checkEntries_eq, textKeyed, List.map_map]
    exact finds_collect fun e he => (h e he).under _
  rw [checker_obj_table, checkTable]
  rcases hc.ok_or_error with ⟨is, his, hnil⟩ | ⟨his, hne⟩
  · simp [his, hnil]
  · rw [his]
    exact (finds_of_ne_nil hne).mpr rfl

/-- What checking finds where a mapping has a value, or has none because it may be absent. -/
def FindsAt (schema : Schema ν) (l : Nat) (s : Shape ν) (absent : Bool) (o : Option Value)
    (issues : List Issue) : Prop :=
  match o with
  | some v => Finds (v.checker schema l s) issues
  | none => absent = true ∧ issues = []

/-- Whether a field may be absent in a mapping: it has a value of its own, and is not spelled by its
name. -/
@[simp] def mayLack (f : Field ν) (es : List (String × Value)) : Bool :=
  f.fallback.isSome && (find? f.name es).isNone

theorem finds_field {f : Field ν} {l : Nat} {es : List (String × Value)} {issues : List Issue}
    (h : FindsAt schema (l - f.level) f.shape (mayLack f es) (find? f.wire es) issues) :
    Finds (fieldOutcome schema l (textKeyed es) f) (issues.map (·.under (.key f.wire))) := by
  rw [fieldOutcome, textKeyed, findAny?_text_keys, findAny?_text_keys]
  cases hw : find? f.wire es with
  | some v =>
    rw [hw] at h
    exact Finds.under h _
  | none =>
    rw [hw] at h
    obtain ⟨habsent, rfl⟩ := h
    simp only [mayLack, Bool.and_eq_true, Option.isSome_iff_exists,
      Option.isNone_iff_eq_none] at habsent
    obtain ⟨⟨d, hd⟩, hn⟩ := habsent
    simp [hn, hd]

@[simp] theorem find?_presentEntries_nil (key : String) :
    find? key (presentEntries []) = none := rfl

@[simp] theorem find?_presentEntries_cons (key k : String) (o : Option Value)
    (es : List (String × Option Value)) :
    find? key (presentEntries ((k, o) :: es)) =
      if k = key then o.or (find? key (presentEntries es)) else find? key (presentEntries es) := by
  cases o <;> simp [presentEntries, find?]

theorem mem_of_mem_presentEntries {e : String × Value} {es : List (String × Option Value)}
    (h : e ∈ presentEntries es) : (e.1, some e.2) ∈ es := by
  induction es with
  | nil => simp [presentEntries] at h
  | cons d es ih =>
    obtain ⟨k, o⟩ := d
    cases o with
    | none => exact List.mem_cons_of_mem _ (ih h)
    | some v =>
      rcases List.mem_cons.mp h with rfl | h
      · exact List.mem_cons_self
      · exact List.mem_cons_of_mem _ (ih h)

/-- A model without a rule finds what its fields find, and then its strangers. -/
theorem finds_checkModel {n : ν} {l : Nat} {es : List (Value × Value)} {issues : List Issue}
    (htorn : isTornRecord schema n es = false) (hl : (schema n).level ≤ l)
      (hr : (schema n).rule = none)
    (h : Finds (collect ((schema n).fields.map (fieldOutcome schema (l - (schema n).level) es)))
      issues) :
    Finds (checkModel schema l n (es.map fun e => (e.1, e.2.checker schema)))
      (issues ++ strangers schema n es) := by
  rw [checkModel, if_neg (Nat.not_lt.mpr hl), checkFields_eq htorn]
  rcases h.ok_or_error with ⟨is, his, rfl⟩ | ⟨his, hne⟩
  · cases hstrange : strangers schema n es <;> simp [his, hr, Finds]
  · rw [his]
    exact (finds_of_ne_nil (List.append_ne_nil_of_left_ne_nil hne _)).mpr rfl

/-- Whether keys all belong to fields of a model. -/
def areFields (schema : Schema ν) (n : ν) (keys : List String) : Bool :=
  keys.all fun key => ((schema n).fields.map (·.wire)).contains key

section Models

variable [schema.Whole]

/-- A mapping finds what the fields of its model find. -/
theorem finds_obj {n : ν} {l : Nat} {es : List (String × Value)} {found : Field ν → List Issue}
    (hl : (schema n).level ≤ l) (hr : (schema n).rule = none)
    (hkeys : areFields schema n (es.map (·.1)) = true)
    (h : ∀ f ∈ (schema n).fields, FindsAt schema (l - (schema n).level - f.level) f.shape
      (mayLack f es) (find? f.wire es) (found f)) :
    Finds ((Value.obj es).checker schema l (.model n))
      ((schema n).fields.flatMap fun f => (found f).map (·.under (.key f.wire))) := by
  have known : ∀ e ∈ es, e.1 ∈ (schema n).fields.map (·.wire) :=
    fun e he => by simpa using List.all_eq_true.mp hkeys e.1 (List.mem_map_of_mem he)
  have whole : ∀ e ∈ es, Text.isTorn e.1 = false := fun e he => isTorn_wire (known e he)
  have hm := finds_checkModel (isTornRecord_eq_false whole) hl hr
    (finds_collect fun f hf => finds_field (h f hf))
  rwa [strangers_eq_nil whole known, List.append_nil, ← checker_obj_model] at hm

/-- A mapping of entries that may be absent finds what the fields of its model find. -/
theorem finds_present {n : ν} {l : Nat} {es : List (String × Option Value)}
    {found : Field ν → List Issue} (hl : (schema n).level ≤ l) (hr : (schema n).rule = none)
    (hkeys : areFields schema n (es.map (·.1)) = true)
    (h : ∀ f ∈ (schema n).fields, FindsAt schema (l - (schema n).level - f.level) f.shape
      (mayLack f (presentEntries es)) (find? f.wire (presentEntries es)) (found f)) :
    Finds ((Value.ofPresent es).checker schema l (.model n))
      ((schema n).fields.flatMap fun f => (found f).map (·.under (.key f.wire))) := by
  refine finds_obj hl hr (List.all_eq_true.mpr fun key hkey => ?_) h
  obtain ⟨e, he, rfl⟩ := List.mem_map.mp hkey
  exact List.all_eq_true.mp hkeys e.1 (List.mem_map.mpr ⟨_, mem_of_mem_presentEntries he, rfl⟩)

theorem fits_obj {n : ν} {l : Nat} {es : List (String × Value)} (hl : (schema n).level ≤ l)
    (hr : (schema n).rule = none) (hkeys : areFields schema n (es.map (·.1)) = true)
    (h : ∀ f ∈ (schema n).fields, FindsAt schema (l - (schema n).level - f.level) f.shape
      (mayLack f es) (find? f.wire es) []) :
    Finds ((Value.obj es).checker schema l (.model n)) [] := by
  have ho := finds_obj hl hr hkeys h
  rwa [List.flatMap_eq_nil_iff.mpr fun _ _ => List.map_nil] at ho

theorem fits_present {n : ν} {l : Nat} {es : List (String × Option Value)}
    (hl : (schema n).level ≤ l) (hr : (schema n).rule = none)
    (hkeys : areFields schema n (es.map (·.1)) = true)
    (h : ∀ f ∈ (schema n).fields, FindsAt schema (l - (schema n).level - f.level) f.shape
      (mayLack f (presentEntries es)) (find? f.wire (presentEntries es)) []) :
    Finds ((Value.ofPresent es).checker schema l (.model n)) [] := by
  have hp := finds_present hl hr hkeys h
  rwa [List.flatMap_eq_nil_iff.mpr fun _ _ => List.map_nil] at hp

end Models

/-- A choice by a tag finds what the chosen model finds, below the tag. -/
theorem finds_tagged {n : ν} {l : Nat} {es : List (String × Value)} {tag t : String}
    {choices : List (String × ν)} {issues : List Issue} (ht : find? tag es = some (.str t))
    (hc : choices.find? (·.1 == t) = some (t, n))
    (h : Finds ((Value.obj es).checker schema l (.model n)) issues) :
    Finds ((Value.obj es).checker schema l (.tagged tag choices))
      (issues.map (·.under (.key t))) := by
  rw [checker_obj_tagged, ht]
  simp only [choice?, hc]
  exact h.under _

theorem fits_tagged {n : ν} {l : Nat} {es : List (String × Value)} {tag t : String}
    {choices : List (String × ν)} (ht : find? tag es = some (.str t))
    (hc : choices.find? (·.1 == t) = some (t, n))
    (h : Finds ((Value.obj es).checker schema l (.model n)) []) :
    Finds ((Value.obj es).checker schema l (.tagged tag choices)) [] :=
  finds_tagged ht hc h

section Fits

variable {l : Nat}

@[simp] theorem findsAt_some {s : Shape ν} {absent : Bool} {v : Value} {issues : List Issue} :
    FindsAt schema l s absent (some v) issues ↔ Finds (v.checker schema l s) issues := Iff.rfl

@[simp] theorem findsAt_none {s : Shape ν} {absent : Bool} {issues : List Issue} :
    FindsAt schema l s absent none issues ↔ absent = true ∧ issues = [] := Iff.rfl

@[simp] theorem fits_map {α : Type} {s : Shape ν} {absent : Bool} {o : Option α}
    {make : α → Value} : FindsAt schema l s absent (o.map make) [] ↔
      (∀ a, o = some a → Finds ((make a).checker schema l s) []) ∧ (o = none → absent = true) := by
  cases o <;> simp

@[simp] theorem fits_someList {s : Shape ν} {absent : Bool} {vs : List Value} :
    FindsAt schema l s absent (someList vs) [] ↔
      (vs ≠ [] → Finds ((Value.list vs).checker schema l s) []) ∧ (vs = [] → absent = true) := by
  cases vs <;> simp [someList]

@[simp] theorem someList_eq_none {vs : List Value} : someList vs = none ↔ vs = [] := by
  cases vs <;> simp [someList]

theorem fits_optional {s : Shape ν} {v : Value} (h : Finds (v.checker schema l s) []) :
    Finds (v.checker schema l (.optional s)) [] := by
  by_cases hv : v = .null
  · subst hv
    exact ⟨_, rfl⟩
  · rwa [checker_optional hv]

@[simp] theorem finds_optional {s : Shape ν} {v : Value} {issues : List Issue} (hv : v ≠ .null) :
    Finds (v.checker schema l (.optional s)) issues ↔ Finds (v.checker schema l s) issues := by
  rw [checker_optional hv]

@[simp] theorem fits_text {least : Nat} {most : Option Nat} {p : Option Pattern} {t : String} :
    Finds ((Value.str t).checker schema l (.text least most p)) [] ↔
      textFault? least most p t = none := by
  rw [finds_nil, checker_text]
  simp [readWith_eq_ok, Scalar.readText]

theorem finds_text {least : Nat} {most : Option Nat} {p : Option Pattern} (t : String) :
    Finds ((Value.str t).checker schema l (.text least most p))
      ((textFault? least most p t).map (⟨·, []⟩)).toList := by
  rw [checker_text, Scalar.readText, readWith]
  cases textFault? least most p t with
  | none => exact ⟨_, rfl⟩
  | some cause => exact rfl

@[simp] theorem fits_flag (b : Bool) : Finds ((Value.bool b).checker schema l .flag) [] :=
  ⟨_, rfl⟩

@[simp] theorem fits_real (x : Binary64) : Finds ((Value.float x).checker schema l .real) [] :=
  ⟨_, rfl⟩

@[simp] theorem fits_whole {b : Bounds} {n : Int} :
    Finds ((Value.int n).checker schema l (.whole b)) [] ↔ boundFault? b n = none := by
  rw [finds_nil, checker_whole]
  simp [readWith_eq_ok, Scalar.readWhole]

@[simp] theorem fits_oneOf {words : List String} {t : String} :
    Finds ((Value.str t).checker schema l (.oneOf words)) [] ↔ t ∈ words := by
  rw [finds_nil]
  simp [checker_oneOf_eq_ok]

theorem fits_list {vs : List Value} {least : Nat} {item : Shape ν} (hlen : least ≤ vs.length)
    (h : ∀ v ∈ vs, Finds (v.checker schema l item) []) :
    Finds ((Value.list vs).checker schema l (.list least item)) [] := by
  have hl : Finds ((Value.list vs).checker schema l (.list least item))
      (vs.zipIdx.flatMap fun e => ([] : List Issue).map (·.under (.index e.2))) :=
    finds_list hlen fun e he => h e.1 (List.fst_mem_of_mem_zipIdx he)
  rwa [List.flatMap_eq_nil_iff.mpr fun _ _ => List.map_nil] at hl

/-- A list that fits still does with fewer items or others in their order. -/
theorem fits_subset (ws : List Value) {vs : List Value} {least : Nat} {item : Shape ν}
    (hlen : least ≤ ws.length)
    (hsub : ws ⊆ vs) (h : Finds ((Value.list vs).checker schema l (.list least item)) []) :
    Finds ((Value.list ws).checker schema l (.list least item)) [] := by
  obtain ⟨i, hi⟩ := h
  rw [checker_list_list] at hi
  obtain ⟨is, -, -, his⟩ := checkList_eq_ok.mp hi
  refine fits_list hlen fun v hv => ?_
  obtain ⟨k, hk, rfl⟩ := List.mem_iff_getElem.mp (hsub hv)
  exact ⟨_, (List.forall₂_iff_get.mp his).2 k hk (his.length_eq ▸ hk)⟩

theorem fits_texts {ts : List String} {least : Nat} (hlen : least ≤ ts.length) :
    Finds ((Value.texts ts).checker schema l (.list least .anyText)) [] := by
  refine fits_list (by simpa using hlen) fun v hv => ?_
  obtain ⟨t, -, rfl⟩ := List.mem_map.mp hv
  simp

end Fits

/-- The issues of a text that may not be empty nor have halves of pairs. -/
def someTextIssues (t : String) : List Issue :=
  ((textFault? 1 none none t).map (⟨·, []⟩)).toList

theorem finds_someText {l : Nat} (t : String) :
    Finds ((Value.str t).checker schema l .someText) (someTextIssues t) :=
  finds_text t

/-- The texts of a list, each at its place. -/
def listed (ts : List String) : List (Location × String) :=
  ts.zipIdx.map fun e => ([.index e.2], e.1)

/-- Texts at places below a step. -/
def textsBelow (step : Step) (ts : List (Location × String)) : List (Location × String) :=
  ts.map fun e => (step :: e.1, e.2)

/-- The issues of texts at their places, which may not be empty nor have halves of pairs. -/
def textIssues (ts : List (Location × String)) : List Issue :=
  ts.flatMap fun e => ((textFault? 1 none none e.2).map (⟨·, e.1⟩)).toList

@[simp] theorem textIssues_nil : textIssues [] = [] := rfl

@[simp] theorem textIssues_append (ts us : List (Location × String)) :
    textIssues (ts ++ us) = textIssues ts ++ textIssues us :=
  List.flatMap_append

theorem textIssues_flatMap {α : Type} (as : List α) (g : α → List (Location × String)) :
    textIssues (as.flatMap g) = as.flatMap fun a => textIssues (g a) :=
  List.flatMap_assoc

@[simp] theorem textIssues_textsBelow (step : Step) (ts : List (Location × String)) :
    textIssues (textsBelow step ts) = (textIssues ts).map (·.under step) := by
  rw [textIssues, textsBelow, List.flatMap_map, textIssues, List.map_flatMap]
  refine congrArg (List.flatMap · ts) (funext fun e => ?_)
  cases textFault? 1 none none e.2 <;> rfl

theorem textIssues_cons_key (key t : String) (ts : List (Location × String)) :
    textIssues (([.key key], t) :: ts) =
      (someTextIssues t).map (·.under (.key key)) ++ textIssues ts := by
  rw [textIssues, List.flatMap_cons, someTextIssues]
  cases textFault? 1 none none t <;> rfl

theorem textIssues_eq_nil {ts : List (Location × String)} :
    textIssues ts = [] ↔ ∀ e ∈ ts, Text.IsProper e.2 := by
  simp [textIssues]

theorem finds_someTexts {l least : Nat} {ts : List String} (hlen : least ≤ ts.length) :
    Finds ((Value.texts ts).checker schema l (.list least .someText)) (textIssues (listed ts)) := by
  have same : textIssues (listed ts) =
      ts.zipIdx.flatMap fun e => (someTextIssues e.1).map (·.under (.index e.2)) := by
    rw [textIssues, listed, List.flatMap_map]
    refine congrArg (List.flatMap · _) (funext fun e => ?_)
    cases h : textFault? 1 none none e.1 <;> simp [someTextIssues, h, Issue.under]
  exact same ▸ finds_map hlen fun t _ => finds_someText t

theorem fits_someTexts {l least : Nat} {ts : List String} (hlen : least ≤ ts.length)
    (h : ∀ t ∈ ts, Text.IsProper t) :
    Finds ((Value.texts ts).checker schema l (.list least .someText)) [] := by
  have hnone : textIssues (listed ts) = [] := by
    refine textIssues_eq_nil.mpr (List.forall_mem_map.mpr fun e he => ?_)
    exact h e.1 (List.fst_mem_of_mem_zipIdx he)
  exact hnone ▸ finds_someTexts hlen

end Shape
end SchemaIntents
