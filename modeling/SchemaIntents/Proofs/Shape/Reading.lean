import SchemaIntents.Proofs.Shape.Parts
import SchemaIntents.Proofs.Shape.Record
import SchemaIntents.Proofs.Text.Points
import SchemaIntents.Shape

/-! What checking lets through, said part by part: a value is read as an instance when the parts of
the instance come of its parts. -/
namespace SchemaIntents

variable {ν : Type} {schema : Schema ν}

namespace Shape

/-- A shape whose instances are plain values that stand for themselves. -/
def isPlain : Shape ν → Bool
  | any | text _ _ _ | flag | whole _ | real | scalar | oneOf _ | mapping => true
  | _ => false

/-- Whether null may be among the instances of a shape. -/
def admitsNull : Shape ν → Bool
  | any | optional _ => true
  | _ => false

def isChoiceOfWords : Shape ν → Bool
  | oneOf _ => true
  | _ => false

/-- A shape whose instances say all that there is to say: it brings nothing into another form, and
in each choice by a tag the chosen model keeps the tag as a word. -/
def isFaithful (schema : Schema ν) : Shape ν → Bool
  | path | names => false
  | list _ s | table s | optional s => s.isFaithful schema
  | tagged tag choices => choices.all fun c =>
      (schema c.2).fields.any fun f => f.wire == tag && f.shape.isChoiceOfWords
  | _ => true

theorem isFaithful_tagged {tag : String} {choices : List (String × ν)}
    (h : (tagged tag choices).isFaithful schema = true) {c : String × ν} (hc : c ∈ choices) :
    ∃ f ∈ (schema c.2).fields, f.wire = tag ∧ ∃ words, f.shape = .oneOf words := by
  simp only [isFaithful, List.all_eq_true, List.any_eq_true, Bool.and_eq_true, beq_iff_eq] at h
  obtain ⟨f, hf, hw, hs⟩ := h c hc
  refine ⟨f, hf, hw, ?_⟩
  cases hfs : f.shape <;> simp_all [isChoiceOfWords]

end Shape

/-- A field has what it has while it is absent, or it has something else. -/
theorem Field.absent_or (f : Field ν) (i : Instance ν) :
    (∃ d, f.fallback = some d ∧ i = .ofValue d) ∨ ∀ d, f.fallback = some d → i ≠ .ofValue d := by
  by_cases h : ∃ d, f.fallback = some d ∧ i = .ofValue d
  · exact .inl h
  · exact .inr fun d hd hi => h ⟨d, hd, hi⟩

/-- A value is read as an instance of a shape, with the levels that are left for it. Each part of
the instance comes of a part of the value, unless a field has what it has while it is absent. -/
inductive Reads (schema : Schema ν) : Nat → Shape ν → Value → Instance ν → Prop
  | plain {l : Nat} {s : Shape ν} {v w : Value} :
      s.isPlain = true → v.checker schema l s = .ok (.plain w) → Reads schema l s v (.plain w)
  | null {l : Nat} {s : Shape ν} : Reads schema l (.optional s) .null (.plain .null)
  | some {l : Nat} {s : Shape ν} {v : Value} {i : Instance ν} :
      i.isNull = false → Reads schema l s v i → Reads schema l (.optional s) v i
  | list {l least : Nat} {s : Shape ν} {v : Value} {is : List (Instance ν)}
      (origin : Instance ν → Value) : least ≤ is.length → (∀ i ∈ is, origin i ∈ v.children) →
      (∀ i ∈ is, Reads schema l s (origin i) i) → Reads schema l (.list least s) v (.list is)
  | table {l : Nat} {s : Shape ν} {v : Value} {es : List (String × Instance ν)}
      (origin : String × Instance ν → Value) : (∀ e ∈ es, origin e ∈ v.children) →
      (∀ e ∈ es, Reads schema l s (origin e) e.2) → Reads schema l (.table s) v (.table es)
  | model {l : Nat} {n : ν} {v : Value} {given : List Bool} {values : List (Instance ν)}
      (origin : Field ν × Instance ν → Value) :
      (schema n).level ≤ l → (schema n).fields.length = values.length →
      (∀ p ∈ (schema n).fields.zip values, (∀ d, p.1.fallback = Option.some d → p.2 ≠ .ofValue d) →
        origin p ∈ v.children) →
      (∀ p ∈ (schema n).fields.zip values, (∀ d, p.1.fallback = Option.some d → p.2 ≠ .ofValue d) →
        Reads schema (l - (schema n).level - p.1.level) p.1.shape (origin p) p.2) →
      (schema n).rule.bind (Shape.ruleFault? schema · (.model n given values)) = none →
      Reads schema l (.model n) v (.model n given values)
  | tagged {l : Nat} {tag t : String} {choices : List (String × ν)} {n : ν} {v : Value}
      {given : List Bool} {values : List (Instance ν)} {f : Field ν} :
      Shape.choice? (.str t) choices = Option.some (t, n) →
      (f, .plain (.str t)) ∈ (schema n).fields.zip values → f.wire = tag →
      Reads schema l (.model n) v (.model n given values) →
      Reads schema l (.tagged tag choices) v (.model n given values)

namespace Shape

open Checked Value

section TextFault

variable {t : String}

@[simp] theorem textFault?_any (t : String) : textFault? 0 none none t = none := rfl

@[simp] theorem textFault?_some :
    textFault? 1 none none t = none ↔ Text.IsProper t := by
  cases htorn : Text.isTorn t <;> simp [textFault?, Text.isProper_iff, htorn]

@[simp] theorem textFault?_formed {p : Pattern} :
    textFault? 0 none (some p) t = none ↔ Text.isTorn t = false ∧ p.accepts t = true := by
  cases htorn : Text.isTorn t <;> simp [textFault?, htorn]

end TextFault

theorem readWith_eq_ok {α : Type} {make : α → Value} {fault? : α → Option Cause}
    {r : Except Cause α} {i : Instance ν} :
    readWith make fault? r = .ok i ↔ ∃ a, r = .ok a ∧ fault? a = none ∧ i = .plain (make a) := by
  cases r with
  | error c => simpa [readWith] using fail_ne_ok
  | ok a =>
    cases h : fault? a with
    | some c => simpa [readWith, h] using fail_ne_ok
    | none => simp [readWith, h, eq_comm]

theorem ofReader_eq_ok {α : Type} {make : α → Value} {r : Except Cause α} {i : Instance ν} :
    ofReader make r = .ok i ↔ ∃ a, r = .ok a ∧ i = .plain (make a) := by
  cases r with
  | error c => simpa [ofReader] using fail_ne_ok
  | ok a => simp [ofReader, eq_comm]

theorem checker_text (v : Value) (l least : Nat) (most : Option Nat) (p : Option Pattern) :
    v.checker schema l (.text least most p) =
      readWith .str (textFault? least most p) (Scalar.readText v) := rfl

theorem checker_whole (v : Value) (l : Nat) (b : Bounds) :
    v.checker schema l (.whole b) = readWith .int (boundFault? b) (Scalar.readWhole v) := rfl

theorem checker_flag (v : Value) (l : Nat) :
    v.checker schema l .flag = ofReader .bool (Scalar.readFlag v) := rfl

theorem checker_real (v : Value) (l : Nat) :
    v.checker schema l .real = ofReader .float (Scalar.readReal v) := rfl

theorem checker_oneOf_eq_ok {v : Value} {l : Nat} {words : List String} {i : Instance ν} :
    v.checker schema l (.oneOf words) = .ok i ↔ ∃ s ∈ words, v = .str s ∧ i = .plain v := by
  cases v with
  | str s =>
    by_cases h : s ∈ words
    · simp [checker, checkParts, h, eq_comm]
    · simpa [checker, checkParts, h] using fail_ne_ok
  | _ => simpa [checker, checkParts] using fail_ne_ok

/-- A mapping with text keys stands for itself. -/
theorem checker_mapping_obj (l : Nat) (es : List (String × Value)) :
    (Value.obj es).checker schema l .mapping = .ok (.plain (.obj es)) := by
  have h : (es.map fun e => ((.str e.1 : Value), e.2.checker schema)).flatMap
      (fun e => keyIssues e.1) = [] := by
    rw [List.flatMap_eq_nil_iff]
    intro e he
    obtain ⟨_, _, rfl⟩ := List.mem_map.mp he
    rfl
  rw [checker, parts, fieldCheckers_eq, checkParts]
  simp only [h, withTextKeys]

theorem eq_of_checker_mapping {l : Nat} {v : Value} {i : Instance ν}
    (h : v.checker schema l .mapping = .ok i) :
    i = .plain (withTextKeys v) ∧ ∃ cs, v.parts schema = .entries cs := by
  simp only [checker, checkParts] at h
  split at h
  case h_1 cs hcs =>
    split at h
    · exact ⟨(Except.ok.inj h).symm, cs, hcs⟩
    · simp at h
  case h_2 => exact absurd h fail_ne_ok

theorem withTextKeys_eq_self {v : Value} (h : ∀ es, v ≠ .map es) : withTextKeys v = v := by
  cases v <;> simp_all [withTextKeys]

/-- Mappings with any keys become mappings with text keys, and all others stay. -/
theorem checker_mapping {l : Nat} {v : Value} {i : Instance ν}
    (h : v.checker schema l .mapping = .ok i) :
    ∃ w, i = .plain w ∧ ∀ k, w.checker schema k .mapping = .ok (.plain w) := by
  have hi := (eq_of_checker_mapping h).1
  refine ⟨_, hi, fun k => ?_⟩
  by_cases hm : ∃ es, v = .map es
  · obtain ⟨es, rfl⟩ := hm
    exact checker_mapping_obj k _
  · have hw : withTextKeys v = v := withTextKeys_eq_self fun es he => hm ⟨es, he⟩
    rw [hi, hw] at h
    rw [hw]
    exact h

/-- What a plain shape makes of a value stands for itself. -/
theorem checker_plain {l : Nat} {s : Shape ν} {v : Value} {i : Instance ν}
    (hs : s.isPlain = true) (h : v.checker schema l s = .ok i) :
    ∃ w, i = .plain w ∧ ∀ k, w.checker schema k s = .ok (.plain w) := by
  cases s with
  | any => exact ⟨v, (Except.ok.inj h).symm, fun _ => rfl⟩
  | text least most pattern =>
    obtain ⟨a, -, hn, rfl⟩ := readWith_eq_ok.mp h
    exact ⟨_, rfl, fun _ => readWith_eq_ok.mpr ⟨a, rfl, hn, rfl⟩⟩
  | flag =>
    obtain ⟨a, -, rfl⟩ := ofReader_eq_ok.mp h
    exact ⟨_, rfl, fun _ => rfl⟩
  | whole bounds =>
    obtain ⟨a, -, hn, rfl⟩ := readWith_eq_ok.mp h
    exact ⟨_, rfl, fun _ => readWith_eq_ok.mpr ⟨a, rfl, hn, rfl⟩⟩
  | real =>
    obtain ⟨a, -, rfl⟩ := ofReader_eq_ok.mp h
    exact ⟨_, rfl, fun _ => rfl⟩
  | scalar =>
    simp only [checker, checkParts] at h
    split at h
    · rename_i hv
      exact ⟨v, (Except.ok.inj h).symm, fun _ => by simp [checker, checkParts, hv]⟩
    · simp at h
  | oneOf words =>
    obtain ⟨a, ha, rfl, rfl⟩ := checker_oneOf_eq_ok.mp h
    exact ⟨_, rfl, fun _ => checker_oneOf_eq_ok.mpr ⟨a, ha, rfl, rfl⟩⟩
  | mapping => exact checker_mapping h
  | _ => simp [isPlain] at hs

theorem checker_optional {v : Value} (hv : v ≠ .null) (l : Nat) (s : Shape ν) :
    v.checker schema l (.optional s) = v.checker schema l s := by
  cases v <;> first | exact absurd rfl hv | rfl

theorem checker_list {l least : Nat} {s : Shape ν} {v : Value} {i : Instance ν}
    (h : v.checker schema l (.list least s) = .ok i) :
    ∃ (vs : List Value) (is : List (Instance ν)), (∀ w ∈ vs, w ∈ v.children) ∧
      i = .list is ∧ least ≤ is.length ∧
      List.Forall₂ (fun v i => v.checker schema l s = .ok i) vs is := by
  rcases parts_cases schema v with hp | ⟨vs, hs, hp⟩ | ⟨es, hs, -, hp⟩ <;>
    simp only [checker, checkParts, hp] at h
  · exact absurd h fail_ne_ok
  · obtain ⟨is, hi, hl, hf⟩ := checkList_eq_ok.mp h
    exact ⟨vs, is, hs, hi, hl, hf⟩
  · exact absurd h fail_ne_ok

theorem checker_table {l : Nat} {s : Shape ν} {v : Value} {i : Instance ν}
    (h : v.checker schema l (.table s) = .ok i) :
    ∃ (es : List (Value × Value)) (is : List (Instance ν)), (∀ e ∈ es, e.2 ∈ v.children) ∧
      i = .table ((es.map fun e => keyText e.1).zip is) ∧
      List.Forall₂ (fun (e : Value × Value) i => e.2.checker schema l s = .ok i) es is := by
  rcases parts_cases schema v with hp | ⟨vs, hs, hp⟩ | ⟨es, hs, -, hp⟩ <;>
    simp only [checker, checkParts, hp] at h
  · exact absurd h fail_ne_ok
  · exact absurd h fail_ne_ok
  · obtain ⟨is, hi, hf⟩ := checkTable_eq_ok.mp h
    exact ⟨es, is, hs, hi, hf.imp fun _ _ hw => hw.2⟩

theorem checker_model {l : Nat} {n : ν} {v : Value} {i : Instance ν}
    (h : v.checker schema l (.model n) = .ok i) :
    ∃ (es : List (Value × Value)) (values : List (Instance ν)), (∀ e ∈ es, e.2 ∈ v.children) ∧
      (∀ key, v.lookup? key = findAny? key es) ∧ (schema n).level ≤ l ∧
      List.Forall₂ (fun f v => fieldOutcome schema (l - (schema n).level) es f = .ok v)
        (schema n).fields values ∧
      (schema n).rule.bind (ruleFault? schema · i) = none ∧
      i = instanceOf schema n es values := by
  rcases parts_cases schema v with hp | ⟨vs, hs, hp⟩ | ⟨es, hs, hk, hp⟩ <;>
    simp only [checker, checkParts, hp] at h
  · exact absurd h fail_ne_ok
  · exact absurd h fail_ne_ok
  · obtain ⟨hl, hf⟩ := checkModel_eq_ok.mp h
    obtain ⟨values, hv, -, hr, rfl⟩ := checkFields_eq_ok.mp hf
    exact ⟨es, values, hs, hk, hl, hv, hr, rfl⟩

/-- A tag is a word among the choices, and the value fits the model that it chooses. -/
theorem checker_tagged {l : Nat} {tag : String} {choices : List (String × ν)} {v : Value}
    {i : Instance ν} (h : v.checker schema l (.tagged tag choices) = .ok i) :
    ∃ t n, v.lookup? tag = some (.str t) ∧ choice? (.str t) choices = some (t, n) ∧
      v.checker schema l (.model n) = .ok i := by
  rcases parts_cases schema v with hp | ⟨vs, hs, hp⟩ | ⟨es, hs, hk, hp⟩ <;>
    simp only [checker, checkParts, hp] at h
  · exact absurd h fail_ne_ok
  · exact absurd h fail_ne_ok
  · unfold checkTagged at h
    split at h
    case h_1 => exact absurd h fail_ne_ok
    case h_2 found hfound =>
      split at h
      case h_2 => exact absurd h fail_ne_ok
      case h_1 t n hc =>
        cases found with
        | str s =>
          have ht : t = s := by
            have := List.find?_some (by simpa [choice?] using hc)
            simpa using this
          subst ht
          exact ⟨t, n, hfound, hc, by simpa [checker, checkParts, hp] using under_eq_ok.mp h⟩
        | _ => simp [choice?] at hc

/-- Only null becomes null, and only where the shape admits it. -/
theorem of_checker_eq_null {l : Nat} {s : Shape ν} {v : Value} (hs : s.isFaithful schema = true)
    (h : v.checker schema l s = .ok (.plain .null)) : v = .null ∧ s.admitsNull = true := by
  have of_model : ∀ n, v.checker schema l (.model n) ≠ .ok (.plain .null) := by
    intro n hm
    obtain ⟨es, values, -, -, -, -, -, hi⟩ := checker_model hm
    simp [instanceOf] at hi
  induction s with
  | any => exact ⟨by simpa [checker, checkParts] using h, rfl⟩
  | optional s ih =>
    by_cases hv : v = .null
    · exact ⟨hv, rfl⟩
    · rw [checker_optional hv] at h
      exact absurd (ih hs h).1 hv
  | text least most pattern => simp [checker_text, readWith_eq_ok] at h
  | flag => simp [checker_flag, ofReader_eq_ok] at h
  | whole bounds => simp [checker_whole, readWith_eq_ok] at h
  | real => simp [checker_real, ofReader_eq_ok] at h
  | scalar => cases v <;> simp_all [checker, checkParts, isScalar]
  | oneOf words =>
    obtain ⟨a, -, rfl, hi⟩ := checker_oneOf_eq_ok.mp h
    simp at hi
  | mapping =>
    obtain ⟨hi, cs, hcs⟩ := eq_of_checker_mapping h
    cases v <;> simp_all [withTextKeys, parts]
  | path | names => simp [isFaithful] at hs
  | list least s =>
    obtain ⟨vs, is, -, hi, -⟩ := checker_list h
    simp at hi
  | table s =>
    obtain ⟨vs, is, -, hi, -⟩ := checker_table h
    simp at hi
  | model n => exact absurd h (of_model n)
  | tagged tag choices =>
    obtain ⟨t, n, -, -, hm⟩ := checker_tagged h
    exact absurd hm (of_model n)

theorem exists_left_of_forall₂ {α β : Type} {R : α → β → Prop} {as : List α} {bs : List β}
    (h : List.Forall₂ R as bs) {b : β} (hb : b ∈ bs) : ∃ a ∈ as, R a b := by
  induction h with
  | nil => simp at hb
  | cons hr _ ih =>
    rcases List.mem_cons.mp hb with rfl | hb
    · exact ⟨_, List.mem_cons_self, hr⟩
    · obtain ⟨a, ha, hab⟩ := ih hb
      exact ⟨a, List.mem_cons_of_mem _ ha, hab⟩

theorem exists_getElem?_of_forall₂ {α β : Type} {R : α → β → Prop} {as : List α} {bs : List β}
    (h : List.Forall₂ R as bs) {n : Nat} {a : α} (ha : as[n]? = some a) :
    ∃ b, bs[n]? = some b ∧ R a b := by
  obtain ⟨hn, rfl⟩ := List.getElem?_eq_some_iff.mp ha
  have hn' : n < bs.length := h.length_eq ▸ hn
  exact ⟨bs[n], List.getElem?_eq_getElem hn', (List.forall₂_iff_get.mp h).2 n hn hn'⟩

/-- What checking lets through is read part by part. -/
theorem reads_of_checker
    (ht : ∀ n, ∀ f ∈ (schema n).fields, f.shape.isFaithful schema = true)
    {l : Nat} {s : Shape ν} {v : Value} {i : Instance ν} (hs : s.isFaithful schema = true)
    (h : v.checker schema l s = .ok i) : Reads schema l s v i := by
  induction hn : sizeOf v using Nat.strongRecOn generalizing v l s i with
  | _ size ih =>
    subst hn
    have of_child : ∀ {w : Value} {k : Nat} {s : Shape ν} {i : Instance ν}, w ∈ v.children →
        s.isFaithful schema = true → w.checker schema k s = .ok i → Reads schema k s w i :=
      fun hw hs h => ih _ (sizeOf_child_lt hw) hs h rfl
    have of_model : ∀ n, v.checker schema l (.model n) = .ok i →
        Reads schema l (.model n) v i := by
      intro n hm
      obtain ⟨es, values, hes, -, hl, hv, hr, rfl⟩ := checker_model hm
      have origins : ∀ p ∈ (schema n).fields.zip values,
          (∀ d, p.1.fallback = some d → p.2 ≠ .ofValue d) → ∃ w ∈ v.children,
            w.checker schema (l - (schema n).level - p.1.level) p.1.shape = .ok p.2 := by
        intro p hp hd
        rcases fieldOutcome_eq_ok (List.forall₂_zip hv hp) with ⟨e, he, hw⟩ | ⟨d, hfd, hp⟩
        · exact ⟨e.2, hes e he, hw⟩
        · exact absurd hp (hd d hfd)
      choose! origin horigin hc using origins
      exact .model origin hl hv.length_eq horigin
        (fun p hp hd => of_child (horigin p hp hd) (ht n p.1 (List.of_mem_zip hp).1) (hc p hp hd))
          hr
    induction s with
    | optional s ihs =>
      by_cases hv : v = .null
      · subst hv
        obtain rfl := Except.ok.inj h
        exact .null
      · rw [checker_optional hv] at h
        refine .some (Bool.eq_false_iff.mpr fun hi => ?_) (ihs hs h)
        rw [Instance.isNull_iff.mp hi] at h
        exact hv (of_checker_eq_null (s := s) hs h).1
    | list least s =>
      obtain ⟨vs, is, hvs, rfl, hl, hf⟩ := checker_list h
      have origins : ∀ i ∈ is, ∃ w ∈ v.children, w.checker schema l s = .ok i := by
        intro i hi
        obtain ⟨w, hw, hc⟩ := exists_left_of_forall₂ hf hi
        exact ⟨w, hvs w hw, hc⟩
      choose! origin horigin hc using origins
      exact .list origin hl horigin fun i hi => of_child (horigin i hi) hs (hc i hi)
    | table s =>
      obtain ⟨es, is, hes, rfl, hf⟩ := checker_table h
      have origins : ∀ e ∈ (es.map fun e => keyText e.1).zip is,
          ∃ w ∈ v.children, w.checker schema l s = .ok e.2 := by
        intro e he
        obtain ⟨d, hd, hc⟩ := exists_left_of_forall₂ hf (List.of_mem_zip he).2
        exact ⟨d.2, hes d hd, hc⟩
      choose! origin horigin hc using origins
      exact .table origin horigin fun e he => of_child (horigin e he) hs (hc e he)
    | model n => exact of_model n h
    | tagged tag choices =>
      obtain ⟨t, n, htag, hc, hm⟩ := checker_tagged h
      have hmem : (t, n) ∈ choices := List.mem_of_find?_eq_some hc
      obtain ⟨f, hf, hwire, words, hwords⟩ := isFaithful_tagged hs hmem
      have hread := of_model n hm
      obtain ⟨es, values, -, hk, hl, hv, -, rfl⟩ := checker_model hm
      refine .tagged hc ?_ hwire hread
      obtain ⟨w, hw⟩ := exists_zip_of_mem hv.length_eq hf
      have ho := List.forall₂_zip hv hw
      rw [fieldOutcome, hwire, ← hk tag, htag] at ho
      simp only [under_eq_ok, hwords] at ho
      obtain ⟨_, -, -, rfl⟩ := checker_oneOf_eq_ok.mp ho
      exact hw
    | path | names => simp [isFaithful] at hs
    | _ =>
      obtain ⟨w, rfl, -⟩ := checker_plain rfl h
      exact .plain rfl h

/-- Null is an instance only where the shape admits it. -/
theorem admitsNull_of_reads {l : Nat} {s : Shape ν} {v : Value}
    (h : Reads schema l s v (.plain .null)) (hs : s.isFaithful schema = true) :
    s.admitsNull = true := by
  cases h with
  | plain hp hc => exact (of_checker_eq_null hs hc).2
  | null => rfl
  | some => rfl

end Shape

namespace Instance

open Value

/-- A field of what fits a model was read from a part of it, or has the value that it has while it
is absent. -/
theorem field_cases {l : Nat} {n : ν} {v : Value} {i : Instance ν} {f : Field ν}
    (hn : ((schema n).fields.map (·.name)).Nodup) (h : v.checker schema l (.model n) = .ok i)
    (hf : f ∈ (schema n).fields) :
    (∃ w ∈ v.children, w.checker schema (l - (schema n).level - f.level) f.shape =
        .ok (i.field schema f.name)) ∨
      ∃ d, f.fallback = some d ∧ i.field schema f.name = .ofValue d := by
  obtain ⟨es, values, hes, -, -, hvalues, -, rfl⟩ := Shape.checker_model h
  obtain ⟨u, hu⟩ := Shape.exists_zip_of_mem hvalues.length_eq hf
  rw [Shape.instanceOf, field_model hn hu]
  rcases Shape.fieldOutcome_eq_ok (List.forall₂_zip hvalues hu) with ⟨e, he, hw⟩ | hd
  · exact .inl ⟨e.2, hes e he, hw⟩
  · exact .inr hd

/-- A required field was read from a part. -/
theorem field_of_required {l : Nat} {n : ν} {v : Value} {i : Instance ν} {name wire : String}
    {s : Shape ν} (hn : ((schema n).fields.map (·.name)).Nodup)
    (h : v.checker schema l (.model n) = .ok i)
    (hf : .required name wire s ∈ (schema n).fields) :
    ∃ w ∈ v.children, w.checker schema (l - (schema n).level) s = .ok (i.field schema name) := by
  rcases field_cases hn h hf with hw | ⟨d, hd, -⟩
  · exact hw
  · simp [Field.required] at hd

/-- A field without an entry has what it has while it is absent. -/
theorem field_of_absent {l : Nat} {n : ν} {es : List (String × Value)}
    {i : Instance ν} {f : Field ν} {d : Value} (hn : ((schema n).fields.map (·.name)).Nodup)
    (h : (Value.obj es).checker schema l (.model n) = .ok i) (hf : f ∈ (schema n).fields)
    (hwire : find? f.wire es = none) (hname : find? f.name es = none) (hd : f.fallback = some d) :
    i.field schema f.name = .ofValue d := by
  have ho := fieldOutcome_of_checker hn h hf
  simp only [Shape.fieldOutcome, Shape.textKeyed, findAny?_text_keys, hwire, hname, hd] at ho
  exact (Except.ok.inj ho).symm

/-- A field that may be absent comes of its entry, and is null without one. -/
theorem field_of_maybe (name wire : String) (s : Shape ν) {l : Nat} {n : ν}
    {es : List (String × Value)} {i : Instance ν} (hn : ((schema n).fields.map (·.name)).Nodup)
    (h : (Value.obj es).checker schema l (.model n) = .ok i)
    (hf : .maybe name wire s ∈ (schema n).fields)
      (hname : find? wire es = none → find? name es = none) :
    (∃ v, find? wire es = some v ∧
      v.checker schema (l - (schema n).level) (.optional s) = .ok (i.field schema name)) ∨
      find? wire es = none ∧ i.field schema name = .plain .null := by
  cases hw : find? wire es with
  | some v => exact .inl ⟨v, rfl, field_of_checker (f := .maybe name wire s) hn h hf hw⟩
  | none =>
    exact .inr ⟨rfl, field_of_absent (f := .maybe name wire s) hn h hf hw (hname hw) rfl⟩

end Instance

namespace Shape

/-- A choice by a tag that is known to be made fits the model that it chooses. -/
theorem model_of_tagged {l : Nat} {tag t : String} {choices : List (String × ν)} {n : ν}
    {es : List (String × Value)} {i : Instance ν} (ht : Value.find? tag es = some (.str t))
    (hc : choices.find? (·.1 == t) = some (t, n))
    (h : (Value.obj es).checker schema l (.tagged tag choices) = .ok i) :
    (Value.obj es).checker schema l (.model n) = .ok i := by
  rw [checker_obj_tagged, ht] at h
  simp only [choice?, hc] at h
  exact Checked.under_eq_ok.mp h

/-- The items of a list are read one for one. -/
theorem forall₂_items {α : Type} {write : α → Value} {l least : Nat} {item : Shape ν} {as : List α}
    {i : Instance ν} (h : (Value.list (as.map write)).checker schema l (.list least item) = .ok i) :
    List.Forall₂ (fun a q => (write a).checker schema l item = .ok q) as i.items := by
  rw [checker_list_list] at h
  obtain ⟨is, rfl, -, his⟩ := checkList_eq_ok.mp h
  exact List.forall₂_map_left_iff.mp his

/-- What reads each item as it was reads a list as it was. -/
theorem map_items {α : Type} {write : α → Value} {read : Instance ν → α} {l least : Nat}
    {item : Shape ν} {as : List α} {i : Instance ν}
    (hread : ∀ {a q}, (write a).checker schema l item = .ok q → read q = a)
    (h : (Value.list (as.map write)).checker schema l (.list least item) = .ok i) :
    i.items.map read = as := by
  rw [← List.forall₂_eq_eq_eq, List.forall₂_map_left_iff]
  exact (forall₂_items h).flip.imp fun _ _ hq => hread hq

/-- Texts that fit are read as they were. -/
theorem texts_of_checker {l count least : Nat} {most : Option Nat} {p : Option Pattern}
    {ts : List String} {i : Instance ν}
    (h : (Value.texts ts).checker schema l (.list count (.text least most p)) = .ok i) :
    i.items.map Instance.text = ts := by
  refine map_items (fun {t q} hq => ?_) h
  rw [checker_text] at hq
  obtain ⟨a, ha, -, rfl⟩ := readWith_eq_ok.mp hq
  obtain rfl := Except.ok.inj ha
  rfl

end Shape
end SchemaIntents
