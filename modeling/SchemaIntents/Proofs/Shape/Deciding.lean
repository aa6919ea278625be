import SchemaIntents.Proofs.Shape.Findings

/-! Which values fit a shape, said by a property: where it holds they come to an instance, and where
it does not some issue is found. Most shapes settle this alike whatever levels are left. -/
namespace SchemaIntents

variable {ν : Type} {schema : Schema ν}

/-- An outcome is a result where a property holds, and else some issues. -/
def Decides {α : Type} (c : Except (List Issue) α) (p : Prop) : Prop :=
  ∃ issues, Finds c issues ∧ (issues = [] ↔ p)

section Decides

variable {α : Type} {c : Except (List Issue) α} {p q : Prop}

theorem Finds.eq_nil_iff {issues : List Issue} (h : Finds c issues) :
    issues = [] ↔ ∃ a, c = .ok a := by
  rcases h.ok_or_error with ⟨a, ha, hnil⟩ | ⟨hc, hne⟩
  · exact iff_of_true hnil ⟨a, ha⟩
  · simp [hc, hne]

@[simp] theorem decides_true : Decides c True ↔ Finds c [] := by
  simp [Decides]

theorem Decides.congr (h : Decides c p) (hpq : p ↔ q) : Decides c q := by
  obtain ⟨issues, hfound, hp⟩ := h
  exact ⟨issues, hfound, hp.trans hpq⟩

theorem Decides.iff (h : Decides c p) : p ↔ ∃ a, c = .ok a := by
  obtain ⟨issues, hfound, hp⟩ := h
  exact hp.symm.trans hfound.eq_nil_iff

end Decides

namespace Shape

open Checked Value

section Parts

variable {l : Nat}

/-- A list fits if it has enough items and each of them fits. -/
theorem decides_list {vs : List Value} {least : Nat} {item : Shape ν} {p : Value → Prop}
    (h : ∀ v ∈ vs, Decides (v.checker schema l item) (p v)) :
    Decides ((Value.list vs).checker schema l (.list least item))
      (least ≤ vs.length ∧ ∀ v ∈ vs, p v) := by
  choose! found hfound hp using h
  rw [checker_list_list]
  refine ⟨_, finds_checkList fun e he => hfound e.1 (List.fst_mem_of_mem_zipIdx he), ?_⟩
  have hitems : (vs.zipIdx.flatMap fun e => (found e.1).map (·.under (.index e.2))) = [] ↔
      ∀ v ∈ vs, p v := by
    simp only [List.flatMap_eq_nil_iff, List.map_eq_nil_iff]
    constructor
    · intro hall v hv
      obtain ⟨k, hk⟩ := List.mem_iff_getElem?.mp hv
      exact (hp v hv).mp (hall (v, k) (List.mk_mem_zipIdx_iff_getElem?.mpr hk))
    · intro hall e he
      have hmem := List.fst_mem_of_mem_zipIdx he
      exact (hp e.1 hmem).mpr (hall e.1 hmem)
  rw [← hitems, listIssues]
  split
  · rename_i hshort
    simp [Nat.not_le.mpr hshort.2]
  · rename_i hlen
    rw [not_and_or, Nat.not_lt] at hlen
    exact ⟨fun hnil => ⟨hlen.resolve_left fun hne => hne hnil, hnil⟩, fun hboth => hboth.2⟩

/-- A list of values that are made from something fits if it has enough and all of them fit. -/
theorem decides_map {α : Type} {as : List α} {make : α → Value} {least : Nat} {item : Shape ν}
    {p : α → Prop} (h : ∀ a ∈ as, Decides ((make a).checker schema l item) (p a)) :
    Decides ((Value.list (as.map make)).checker schema l (.list least item))
      (least ≤ as.length ∧ ∀ a ∈ as, p a) := by
  have hmade : ∀ v ∈ as.map make,
      Decides (v.checker schema l item) (∃ i, v.checker schema l item = .ok i) := by
    intro v hv
    obtain ⟨a, ha, rfl⟩ := List.mem_map.mp hv
    exact (h a ha).congr (h a ha).iff
  refine (decides_list hmade).congr ?_
  rw [List.length_map, List.forall_mem_map]
  exact and_congr_right fun _ => forall₂_congr fun a ha => (h a ha).iff.symm

/-- A table with text keys fits if each of its entries does. -/
theorem decides_table {es : List (String × Value)} {entry : Shape ν} {p : String × Value → Prop}
    (h : ∀ e ∈ es, Decides (e.2.checker schema l entry) (p e)) :
    Decides ((Value.obj es).checker schema l (.table entry)) (∀ e ∈ es, p e) := by
  choose! found hfound hp using h
  refine ⟨_, finds_table hfound, ?_⟩
  simp only [List.flatMap_eq_nil_iff, List.map_eq_nil_iff]
  exact forall₂_congr hp

/-- Whether a field of a mapping fits, given or absent. -/
def DecidesAt (schema : Schema ν) (l : Nat) (s : Shape ν) (absent : Bool) (o : Option Value)
    (p : Prop) : Prop :=
  ∃ issues, FindsAt schema l s absent o issues ∧ (issues = [] ↔ p)

section DecidesAt

variable {s : Shape ν} {absent : Bool} {p : Prop}

@[simp] theorem decidesAt_true {o : Option Value} :
    DecidesAt schema l s absent o True ↔ FindsAt schema l s absent o [] := by
  simp [DecidesAt]

@[simp] theorem decidesAt_some {v : Value} :
    DecidesAt schema l s absent (some v) p ↔ Decides (v.checker schema l s) p := Iff.rfl

/-- A field that may be absent fits if what it is given does. -/
theorem decidesAt_map {α : Type} {o : Option α} {make : α → Value} {p : α → Prop}
    (habsent : o = none → absent = true)
    (h : ∀ a, o = some a → make a ≠ .null ∧ Decides ((make a).checker schema l s) (p a)) :
    DecidesAt schema l (.optional s) absent (o.map make) (∀ a, o = some a → p a) := by
  cases o with
  | none => simpa using habsent
  | some a =>
    obtain ⟨hnull, hdecides⟩ := h a rfl
    simpa [checker_optional hnull] using hdecides

end DecidesAt

/-- A mapping fits a model if each of its fields does. -/
theorem decides_obj [schema.Whole] {n : ν} {es : List (String × Value)} {p : String → Prop}
    (hl : (schema n).level ≤ l) (hr : (schema n).rule = none)
    (hkeys : areFields schema n (es.map (·.1)) = true)
    (h : ∀ f ∈ (schema n).fields, DecidesAt schema (l - (schema n).level - f.level) f.shape
      (mayLack f es) (find? f.wire es) (p f.wire)) :
    Decides ((Value.obj es).checker schema l (.model n)) (∀ f ∈ (schema n).fields, p f.wire) := by
  choose! found hfound hp using h
  refine ⟨_, finds_obj hl hr hkeys hfound, ?_⟩
  simp only [List.flatMap_eq_nil_iff, List.map_eq_nil_iff]
  exact forall₂_congr hp

theorem decides_present [schema.Whole] {n : ν} {es : List (String × Option Value)}
    {p : String → Prop} (hl : (schema n).level ≤ l) (hr : (schema n).rule = none)
    (hkeys : areFields schema n (es.map (·.1)) = true)
    (h : ∀ f ∈ (schema n).fields, DecidesAt schema (l - (schema n).level - f.level) f.shape
      (mayLack f (presentEntries es)) (find? f.wire (presentEntries es)) (p f.wire)) :
    Decides ((Value.ofPresent es).checker schema l (.model n))
      (∀ f ∈ (schema n).fields, p f.wire) := by
  choose! found hfound hp using h
  refine ⟨_, finds_present hl hr hkeys hfound, ?_⟩
  simp only [List.flatMap_eq_nil_iff, List.map_eq_nil_iff]
  exact forall₂_congr hp

theorem decides_tagged {n : ν} {es : List (String × Value)} {tag t : String}
    {choices : List (String × ν)} {p : Prop} (ht : find? tag es = some (.str t))
    (hc : choices.find? (·.1 == t) = some (t, n))
    (h : Decides ((Value.obj es).checker schema l (.model n)) p) :
    Decides ((Value.obj es).checker schema l (.tagged tag choices)) p := by
  obtain ⟨issues, hfound, hp⟩ := h
  exact ⟨_, finds_tagged ht hc hfound, by rwa [List.map_eq_nil_iff]⟩

end Parts

/-- A shape that takes no levels: whatever is left of them, a value fits, or the same issues are
found in it. -/
def IsFlat (schema : Schema ν) (s : Shape ν) : Prop :=
  ∀ v : Value, ∃ issues, ∀ l, Finds (v.checker schema l s) issues

section IsFlat

theorem finds_fail (cause : Cause) : Finds (fail cause : Checked ν) [⟨cause, []⟩] := rfl

theorem flat_any : IsFlat schema .any :=
  fun _ => ⟨[], fun _ => ⟨_, rfl⟩⟩

theorem exists_finds_readWith {α : Type} (make : α → Value) (fault? : α → Option Cause)
    (r : Except Cause α) : ∃ issues, Finds (readWith make fault? r : Checked ν) issues := by
  cases r with
  | error cause => exact ⟨_, finds_fail cause⟩
  | ok a =>
    rw [readWith]
    cases fault? a with
    | some cause => exact ⟨_, finds_fail cause⟩
    | none => exact ⟨[], _, rfl⟩

theorem flat_text {least : Nat} {most : Option Nat} {pattern : Option Pattern} :
    IsFlat schema (.text least most pattern) := by
  intro v
  obtain ⟨issues, h⟩ := exists_finds_readWith (ν := ν) .str (textFault? least most pattern)
    (Scalar.readText v)
  exact ⟨issues, fun _ => h⟩

theorem flat_whole {b : Bounds} : IsFlat schema (.whole b) := by
  intro v
  obtain ⟨issues, h⟩ := exists_finds_readWith (ν := ν) .int (boundFault? b) (Scalar.readWhole v)
  exact ⟨issues, fun _ => h⟩

theorem flat_real : IsFlat schema .real := by
  intro v
  cases h : Scalar.readReal v with
  | error cause => exact ⟨[⟨cause, []⟩], fun l => by rw [checker_real, h]; rfl⟩
  | ok x => exact ⟨[], fun l => by rw [checker_real, h]; exact ⟨_, rfl⟩⟩

theorem flat_oneOf {words : List String} : IsFlat schema (.oneOf words) := by
  intro v
  cases v with
  | str t =>
    by_cases ht : t ∈ words
    · exact ⟨[], fun _ => fits_oneOf.mpr ht⟩
    · exact ⟨[⟨wordFault words t, []⟩], fun _ => by simp [checker, checkParts, ht, finds_fail]⟩
  | _ => exact ⟨[⟨.notOneOf words, []⟩], fun _ => rfl⟩

theorem IsFlat.optional {s : Shape ν} (h : IsFlat schema s) : IsFlat schema (.optional s) := by
  intro v
  by_cases hv : v = .null
  · subst hv
    exact ⟨[], fun _ => ⟨_, rfl⟩⟩
  · obtain ⟨issues, hissues⟩ := h v
    exact ⟨issues, fun l => (finds_optional hv).mpr (hissues l)⟩

theorem IsFlat.list {least : Nat} {s : Shape ν} (h : IsFlat schema s) :
    IsFlat schema (.list least s) := by
  intro v
  rcases parts_cases schema v with hp | ⟨vs, -, hp⟩ | ⟨es, -, -, hp⟩
  · exact ⟨_, fun l => by simpa only [checker, checkParts, hp] using finds_fail .notList⟩
  · choose found hfound using h
    refine ⟨listIssues least vs.length
      (vs.zipIdx.flatMap fun e => (found e.1).map (·.under (.index e.2))), fun l => ?_⟩
    have hlist : v.checker schema l (.list least s) = checkList l least s
      (vs.map (checker schema)) := by
      simp only [checker, checkParts, hp]
    rw [hlist]
    exact finds_checkList fun e _ => hfound e.1 l
  · exact ⟨_, fun l => by simpa only [checker, checkParts, hp] using finds_fail .notList⟩

/-- What is found in a field is the same whatever levels are left if its shape takes none. -/
theorem exists_finds_field {f : Field ν} (h : IsFlat schema f.shape) (es : List (Value × Value)) :
    ∃ issues, ∀ l, Finds (fieldOutcome schema l es f) issues := by
  unfold fieldOutcome
  split
  · rename_i v _
    obtain ⟨issues, hissues⟩ := h v
    exact ⟨_, fun l => (hissues (l - f.level)).under _⟩
  · split
    · rename_i v _
      obtain ⟨issues, hissues⟩ := h v
      exact ⟨_, fun l => (hissues (l - f.level)).under _⟩
    · split
      · exact ⟨[], fun _ => ⟨_, rfl⟩⟩
      · exact ⟨[⟨.missing, [.key f.wire]⟩], fun _ => rfl⟩

theorem checker_model_of_parts {v : Value} {es : List (Value × Value)}
    (h : v.parts schema = .entries (es.map fun e => (e.1, e.2.checker schema))) (l : Nat) (n : ν) :
    v.checker schema l (.model n) =
      checkModel schema l n (es.map fun e => (e.1, e.2.checker schema)) := by
  simp only [checker, checkParts, h]

theorem IsFlat.model {n : ν} (hlevel : (schema n).level = 0) (hrule : (schema n).rule = none)
    (h : ∀ f ∈ (schema n).fields, IsFlat schema f.shape) : IsFlat schema (.model n) := by
  intro v
  rcases parts_cases schema v with hp | ⟨vs, -, hp⟩ | ⟨es, -, -, hp⟩
  · exact ⟨_, fun l => by simpa only [checker, checkParts, hp] using finds_fail _⟩
  · exact ⟨_, fun l => by simpa only [checker, checkParts, hp] using finds_fail _⟩
  · have hl (l : Nat) : (schema n).level ≤ l := hlevel ▸ Nat.zero_le l
    simp only [checker_model_of_parts hp]
    by_cases htorn : isTornRecord schema n es = true
    · exact ⟨_, fun l => by
        rw [checkModel, if_neg (Nat.not_lt.mpr (hl l)), checkFields_of_isTornRecord htorn]
        exact finds_fail _⟩
    · choose! found hfound using fun f hf => exists_finds_field (h f hf) es
      exact ⟨(schema n).fields.flatMap found ++ strangers schema n es, fun l =>
        finds_checkModel (Bool.not_eq_true _ ▸ htorn) (hl l) hrule
          (finds_collect fun f hf => hfound f hf _)⟩

theorem mem_of_choice? {found : Value} {choices : List (String × ν)} {c : String × ν}
    (h : choice? found choices = some c) : c ∈ choices := by
  cases found with
  | str t => exact List.mem_of_find?_eq_some h
  | _ => simp [choice?] at h

theorem IsFlat.tagged {tag : String} {choices : List (String × ν)}
    (h : ∀ c ∈ choices, IsFlat schema (.model c.2)) : IsFlat schema (.tagged tag choices) := by
  intro v
  rcases parts_cases schema v with hp | ⟨vs, -, hp⟩ | ⟨es, -, -, hp⟩
  · exact ⟨_, fun l => by simpa only [checker, checkParts, hp] using finds_fail .notTagged⟩
  · exact ⟨_, fun l => by simpa only [checker, checkParts, hp] using finds_fail .notTagged⟩
  · have htagged : ∀ l, v.checker schema l (.tagged tag choices) =
        checkTagged schema l tag choices v (es.map fun e => (e.1, e.2.checker schema)) := by
      intro l
      simp only [checker, checkParts, hp]
    simp only [htagged, checkTagged]
    cases v.lookup? tag with
    | none => exact ⟨_, fun l => finds_fail (.noTag tag)⟩
    | some found =>
      cases hc : choice? found choices with
      | none =>
        simp only [hc]
        exact ⟨_, fun l => finds_fail _⟩
      | some choice =>
        obtain ⟨issues, hissues⟩ := h choice (mem_of_choice? hc) v
        simp only [hc, ← checker_model_of_parts hp]
        exact ⟨_, fun l => (hissues l).under (.key choice.1)⟩

/-- A value fits a shape that takes no levels just when it fits on its own. -/
theorem IsFlat.decides {s : Shape ν} (h : IsFlat schema s) (v : Value) (l : Nat) :
    Decides (v.checker schema l s) (∃ i, v.check schema s = .ok i) := by
  obtain ⟨issues, hissues⟩ := h v
  exact ⟨issues, hissues l, (hissues levelLimit).eq_nil_iff⟩

theorem decides_oneOf {l : Nat} {words : List String} {t : String} :
    Decides ((Value.str t).checker schema l (.oneOf words)) (t ∈ words) :=
  (flat_oneOf.decides (.str t) l).congr fits_oneOf

theorem decides_someText {l : Nat} {t : String} (ht : t ≠ "") :
    Decides ((Value.str t).checker schema l .someText) (Text.isTorn t = false) :=
  (flat_text.decides (.str t) l).congr (fits_text.trans (by simp [Text.isProper_iff, ht]))

theorem decides_whole {l : Nat} {b : Bounds} {n : Int} :
    Decides ((Value.int n).checker schema l (.whole b)) (boundFault? b n = none) :=
  (flat_whole.decides (.int n) l).congr fits_whole

end IsFlat

end Shape
end SchemaIntents
