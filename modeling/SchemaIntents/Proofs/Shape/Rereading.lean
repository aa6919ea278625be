import SchemaIntents.Proofs.Shape.Reading
import SchemaIntents.Proofs.Value.Entries

/-! Reading again what was written. An instance that fits a shape is written without what is null,
so that reading gives the instance back, unless a field that is required was null: then just these
fields are missing. -/
namespace SchemaIntents

variable {ν : Type} {schema : Schema ν}

namespace Shape

/-- A value that a shape leaves as it is, whatever the levels; null is none of them. -/
def stands : Shape ν → Value → Bool
  | oneOf words, .str s => words.contains s
  | text least most pattern, .str s => (textFault? least most pattern s).isNone
  | flag, .bool _ => true
  | mapping, .obj [] => true
  | list least item, .list vs =>
    least ≤ vs.length && vs.all fun v => item.isPlain && item.stands v
  | _, _ => false

/-- The key that tells the models of a choice apart. -/
def tag? : Shape ν → Option String
  | tagged tag _ => some tag
  | optional s => s.tag?
  | _ => none

end Shape

/-- Whether what a field has while it is absent is null or stands for itself. -/
def Field.isSettled (f : Field ν) : Bool :=
  match f.fallback with
  | none | some .null => true
  | some d => f.shape.stands d

theorem Field.null_or_stands {f : Field ν} {d : Value} (h : f.isSettled = true)
    (hd : f.fallback = some d) : d = .null ∨ f.shape.stands d = true := by
  cases d <;> simp_all [isSettled]

/-- A schema whose instances can be written and read again: fields differ in their keys on the wire,
which have no halves of pairs, no name of a field is the key of another, and what fields have while
they are absent is null, where they may be, or stands for itself. -/
structure Schema.Faithful (schema : Schema ν) : Prop extends schema.Whole where
  shapes : ∀ n, ∀ f ∈ (schema n).fields, f.shape.isFaithful schema = true
  wires : ∀ n, ((schema n).fields.map (·.wire)).Nodup
  names : ∀ n, ∀ f ∈ (schema n).fields, ∀ g ∈ (schema n).fields, g.wire = f.name → g.wire = f.wire
  settled : ∀ n, ∀ f ∈ (schema n).fields, f.isSettled = true

/-- What is read where some fields are missing: the issues of these, or else all there is. -/
def lacking {α : Type} (a : α) : List Location → Except (List Issue) α
  | [] => .ok a
  | gaps => .error (gaps.map (⟨.missing, ·⟩))

namespace Instance

/-- The step into the model that a tag chooses, if a shape chooses by one. -/
def tagSteps (s : Shape ν) (fs : List (Field ν)) (values : List (Instance ν)) : Location :=
  match s.tag? with
  | some tag =>
    match (fs.zip values).find? (·.1.wire == tag) with
    | some (_, v) => [.key v.text]
    | none => []
  | none => []

mutual

/-- The places of the required fields that are null, and so are not written. -/
def gapsAs (schema : Schema ν) (s : Shape ν) : Instance ν → List Location
  | plain _ => []
  | list is => gapsAll schema s.part 0 is
  | table es => gapsEntries schema s.part es
  | model n _ values =>
    (gapsFields schema (schema n).fields values).map (tagSteps s (schema n).fields values ++ ·)

def gapsAll (schema : Schema ν) (s : Shape ν) (first : Nat) : List (Instance ν) → List Location
  | [] => []
  | i :: is => (i.gapsAs schema s).map (.index first :: ·) ++ gapsAll schema s (first + 1) is

def gapsEntries (schema : Schema ν) (s : Shape ν) : List (String × Instance ν) → List Location
  | [] => []
  | (k, i) :: rest =>
    (i.gapsAs schema s).map (.key (Text.mended k) :: ·) ++ gapsEntries schema s rest

def gapsFields (schema : Schema ν) : List (Field ν) → List (Instance ν) → List Location
  | f :: fs, i :: is =>
    (if i.isNull then if f.fallback.isNone then [[.key f.wire]] else []
      else (i.gapsAs schema f.shape).map (.key f.wire :: ·)) ++ gapsFields schema fs is
  | _, _ => []

end

/-- The places at which one field is lacking. -/
def gapsField (schema : Schema ν) (f : Field ν) (i : Instance ν) : List Location :=
  if i.isNull then if f.fallback.isNone then [[.key f.wire]] else []
  else (i.gapsAs schema f.shape).map (.key f.wire :: ·)

theorem gapsAll_eq (s : Shape ν) (first : Nat) (is : List (Instance ν)) :
    gapsAll schema s first is =
      (is.zipIdx first).flatMap fun p => (p.1.gapsAs schema s).map (.index p.2 :: ·) := by
  induction is generalizing first with
  | nil => rfl
  | cons i is ih => simp [gapsAll, ih]

theorem gapsEntries_eq (s : Shape ν) (es : List (String × Instance ν)) :
    gapsEntries schema s es =
      es.flatMap fun e => (e.2.gapsAs schema s).map (.key (Text.mended e.1) :: ·) := by
  induction es with
  | nil => rfl
  | cons e es ih => obtain ⟨k, i⟩ := e; simp [gapsEntries, ih]

theorem gapsFields_eq (fs : List (Field ν)) (is : List (Instance ν)) :
    gapsFields schema fs is = (fs.zip is).flatMap fun p => gapsField schema p.1 p.2 := by
  induction fs generalizing is with
  | nil => simp [gapsFields]
  | cons f fs ih => cases is <;> simp [gapsFields, gapsField, ih]

theorem gapsAs_optional (s : Shape ν) (i : Instance ν) :
    i.gapsAs schema (.optional s) = i.gapsAs schema s := by
  cases i <;> rfl

theorem gapsAs_model (m n : ν) (given : List Bool) (values : List (Instance ν)) :
    (model n given values).gapsAs schema (.model m) =
      gapsFields schema (schema n).fields values := by
  simp [gapsAs, tagSteps, Shape.tag?]

end Instance

section Lacking

variable {α : Type}

@[simp] theorem lacking_nil (a : α) : lacking a [] = .ok a := rfl

theorem lacking_of_ne_nil (a : α) {gaps : List Location} (h : gaps ≠ []) :
    lacking a gaps = .error (gaps.map (⟨.missing, ·⟩)) := by
  cases gaps with
  | nil => exact absurd rfl h
  | cons g gs => rfl

theorem under_lacking (step : Step) (i : Instance ν) (gaps : List Location) :
    Checked.under step (lacking i gaps) = lacking i (gaps.map (step :: ·)) := by
  cases gaps <;> simp [lacking, Issue.under, Function.comp_def]

theorem collect_lacking (g : α → Instance ν) (gaps : α → List Location) (as : List α) :
    Checked.collect (as.map fun a => lacking (g a) (gaps a)) =
      lacking (as.map g) (as.flatMap gaps) := by
  induction as with
  | nil => rfl
  | cons a as ih =>
    simp only [List.map_cons, List.flatMap_cons, Checked.collect, ih]
    cases gaps a <;> cases as.flatMap gaps <;> simp [lacking]

theorem collect_checkItems_lacking {levels first : Nat} {item : Shape ν} {as : List α}
    {w : α → Value} {g : α → Instance ν} {gaps : α → List Location}
    (h : ∀ a ∈ as, (w a).checker schema levels item = lacking (g a) (gaps a)) :
    Checked.collect (Shape.checkItems levels item first ((as.map w).map (Value.checker schema))) =
      lacking (as.map g)
        ((as.zipIdx first).flatMap fun p => (gaps p.1).map (.index p.2 :: ·)) := by
  have each : ∀ p ∈ as.zipIdx first, Checked.under (.index p.2)
      ((w p.1).checker schema levels item) =
      lacking (g p.1) ((gaps p.1).map (.index p.2 :: ·)) := by
    intro p hp
    rw [h p.1 (List.fst_mem_of_mem_zipIdx hp), under_lacking]
  rw [Shape.checkItems_eq, List.zipIdx_map, List.map_map]
  simp only [Function.comp_def, Prod.map_fst, Prod.map_snd, id_eq]
  have items : (as.zipIdx first).map (fun p => g p.1) = as.map g := by
    conv_rhs => rw [← List.zipIdx_map_fst first as, List.map_map]
    rfl
  rw [List.map_congr_left each, collect_lacking, items]

/-- A list is lacking what its items lack. -/
theorem checkList_lacking {levels least : Nat} {item : Shape ν} {as : List α} {w : α → Value}
    {g : α → Instance ν} {gaps : α → List Location} (hl : least ≤ as.length)
    (h : ∀ a ∈ as, (w a).checker schema levels item = lacking (g a) (gaps a)) :
    Shape.checkList levels least item ((as.map w).map (Value.checker schema)) =
      lacking (.list (as.map g))
        (as.zipIdx.flatMap fun p => (gaps p.1).map (.index p.2 :: ·)) := by
  unfold Shape.checkList
  rw [collect_checkItems_lacking h]
  cases as.zipIdx.flatMap fun p => (gaps p.1).map (Step.index p.2 :: ·) with
  | nil => simp [lacking, Nat.not_lt.mpr hl]
  | cons gap gaps => simp [lacking]

theorem entryOutcome_lacking {levels : Nat} {entry : Shape ν} {k : String} {v : Value}
    {i : Instance ν} {gaps : List Location} (h : v.checker schema levels entry = lacking i gaps) :
    Shape.entryOutcome schema levels entry (.str k, v) =
      lacking i (gaps.map (.key (Text.mended k) :: ·)) := by
  rw [← under_lacking, ← h]
  rfl

/-- A table is lacking what its entries lack. -/
theorem checkTable_lacking {levels : Nat} {entry : Shape ν} {as : List α} {k : α → String}
    {w : α → Value} {g : α → Instance ν} {gaps : α → List Location}
    (h : ∀ a ∈ as, (w a).checker schema levels entry = lacking (g a) (gaps a)) :
    (Value.obj (as.map fun a => (k a, w a))).checker schema levels (.table entry) =
      lacking (.table (as.map fun a => (k a, g a)))
        (as.flatMap fun a => (gaps a).map (.key (Text.mended (k a)) :: ·)) := by
  have each : ∀ a ∈ as, Shape.entryOutcome schema levels entry (.str (k a), w a) =
      lacking (g a) ((gaps a).map (.key (Text.mended (k a)) :: ·)) :=
    fun a ha => entryOutcome_lacking (h a ha)
  have outcomes : Checked.collect ((Shape.textKeyed (as.map fun a => (k a, w a))).map
      (Shape.entryOutcome schema levels entry)) =
        lacking (as.map g) (as.flatMap fun a => (gaps a).map (.key (Text.mended (k a)) :: ·)) := by
    simp only [Shape.textKeyed, List.map_map, Function.comp_def]
    rw [List.map_congr_left each, collect_lacking]
  have keys : ((Shape.textKeyed (as.map fun a => (k a, w a))).map fun e =>
      (e.1, e.2.checker schema)).map (fun e => Shape.keyText e.1) = as.map k := by
    simp [Shape.textKeyed, Function.comp_def, Shape.keyText, Scalar.readText]
  rw [Shape.checker_obj_table]
  unfold Shape.checkTable
  rw [Shape.checkEntries_eq, outcomes, keys]
  cases as.flatMap fun a => (gaps a).map (Step.key (Text.mended (k a)) :: ·) with
  | nil => simp [lacking, List.zip_map']
  | cons gap gaps => simp [lacking]

end Lacking

namespace Shape

open Checked Value

/-- What a plain shape leaves as it is comes out of reading as it is. -/
theorem checker_stands_plain {s : Shape ν} {d : Value} (hp : s.isPlain = true)
    (h : s.stands d = true) (l : Nat) : d.checker schema l s = .ok (.plain d) := by
  cases s <;> cases d <;> simp_all [stands, isPlain]
  case text.str => exact readWith_eq_ok.mpr ⟨_, rfl, h, rfl⟩
  case flag.bool => rfl
  case oneOf.str => exact checker_oneOf_eq_ok.mpr ⟨_, h, rfl, rfl⟩
  case mapping.obj es =>
    cases es with
    | nil => exact checker_mapping_obj l []
    | cons e es => simp [stands] at h

theorem checker_stands {s : Shape ν} {d : Value} (h : s.stands d = true) (l : Nat) :
    d.checker schema l s = .ok (.ofValue d) := by
  cases s with
  | list least item =>
    cases d <;> simp only [stands, Bool.false_eq_true] at h
    rename_i vs
    simp only [Bool.and_eq_true, decide_eq_true_eq, List.all_eq_true] at h
    rw [checker_list_list]
    refine checkList_eq_ok.mpr ⟨vs.map .plain, rfl, by simpa using h.1, ?_⟩
    rw [List.forall₂_map_right_iff, List.forall₂_same]
    exact fun v hv => checker_stands_plain (h.2 v hv).1 (h.2 v hv).2 l
  | text | flag | oneOf | mapping =>
    have hd : Instance.ofValue d = (.plain d : Instance ν) := by
      cases d <;> simp_all [stands, Instance.ofValue]
    rw [hd]
    exact checker_stands_plain rfl h l
  | _ => simp [stands] at h

/-- What a shape leaves as it is is not null, and null would not fit. -/
theorem not_admitsNull_of_stands {s : Shape ν} {d : Value} (h : s.stands d = true) :
    s.admitsNull = false ∧ d ≠ .null := by
  cases s <;> cases d <;> simp_all [stands, admitsNull]

end Shape

namespace Instance

open Shape Checked Value

/-- The entries that fields are written as. -/
def written (schema : Schema ν) (fs : List (Field ν)) (is : List (Instance ν)) :
    List (String × Value) :=
  present (·.wire) fs (is.map (dump schema))

theorem dump_model (n : ν) (given : List Bool) (values : List (Instance ν)) :
    (model n given values).dump schema = .obj (written schema (schema n).fields values) := by
  simp [dump, written, dumpAll_eq]

theorem written_cons (f : Field ν) (fs : List (Field ν)) (i : Instance ν)
    (is : List (Instance ν)) :
    written schema (f :: fs) (i :: is) =
      if i.isNull then written schema fs is
      else (f.wire, i.dump schema) :: written schema fs is := by
  by_cases hi : i.isNull = true
  · rw [if_pos hi, isNull_iff.mp hi]
    rfl
  · have hd : i.dump schema ≠ .null := fun h => hi (isNull_iff.mpr (dump_eq_null.mp h))
    rw [if_neg hi]
    unfold written
    rw [List.map_cons, present]
    exact hd

theorem wire_of_mem_written {fs : List (Field ν)} {is : List (Instance ν)} {e : String × Value}
    (h : e ∈ written schema fs is) : ∃ f ∈ fs, e.1 = f.wire := by
  induction fs generalizing is with
  | nil => simp [written, present] at h
  | cons f fs ih =>
    cases is with
    | nil => simp [written, present] at h
    | cons i is =>
      rw [written_cons] at h
      split at h
      · obtain ⟨g, hg, he⟩ := ih h
        exact ⟨g, List.mem_cons_of_mem _ hg, he⟩
      · rcases List.mem_cons.mp h with rfl | h
        · exact ⟨f, List.mem_cons_self, rfl⟩
        · obtain ⟨g, hg, he⟩ := ih h
          exact ⟨g, List.mem_cons_of_mem _ hg, he⟩

theorem find?_written_of_ne {key : String} {fs : List (Field ν)} {is : List (Instance ν)}
    (h : ∀ f ∈ fs, f.wire ≠ key) : find? key (written schema fs is) = none := by
  refine find?_eq_none fun hkey => ?_
  obtain ⟨e, he, rfl⟩ := List.mem_map.mp hkey
  obtain ⟨f, hf, hk⟩ := wire_of_mem_written he
  exact h f hf hk.symm

/-- A field is found among what is written just when it is not null. -/
theorem find?_written {fs : List (Field ν)} {is : List (Instance ν)} {f : Field ν}
    {i : Instance ν} (hn : (fs.map (·.wire)).Nodup) (h : (f, i) ∈ fs.zip is) :
    find? f.wire (written schema fs is) = if i.isNull then none else some (i.dump schema) := by
  induction fs generalizing is with
  | nil => simp at h
  | cons g fs ih =>
    cases is with
    | nil => simp at h
    | cons j is =>
      simp only [List.map_cons, List.nodup_cons, List.mem_map, not_exists, not_and] at hn
      simp only [List.zip_cons_cons, List.mem_cons] at h
      rw [written_cons]
      rcases h with h | h
      · obtain ⟨rfl, rfl⟩ := Prod.mk.inj h
        by_cases hi : i.isNull = true
        · simp only [hi, if_true]
          exact find?_written_of_ne hn.1
        · simp [hi, find?]
      · have hg : g.wire ≠ f.wire := fun he => hn.1 f (List.of_mem_zip h).1 he.symm
        by_cases hj : j.isNull = true <;> simp [hj, find?, hg, ih hn.2 h]

/-- Nor is a field that is null found at its name. -/
theorem find?_name_written (hs : schema.Faithful) {n : ν} {is : List (Instance ν)} {f : Field ν}
    {i : Instance ν} (h : (f, i) ∈ (schema n).fields.zip is) (hi : i.isNull = true) :
    find? f.name (written schema (schema n).fields is) = none := by
  by_cases hk : ∃ g ∈ (schema n).fields, g.wire = f.name
  · obtain ⟨g, hg, hw⟩ := hk
    rw [← hw, hs.names n f (List.of_mem_zip h).1 g hg hw, find?_written (hs.wires n) h, if_pos hi]
  · exact find?_written_of_ne fun g hg he => hk ⟨g, hg, he⟩

/-- Nothing is written that is no field. -/
theorem strangers_written (hs : schema.Faithful) (n : ν) (is : List (Instance ν)) :
    strangers schema n (textKeyed (written schema (schema n).fields is)) = [] := by
  refine strangers_eq_nil (fun e he => ?_) fun e he => ?_
  · obtain ⟨f, hf, hk⟩ := wire_of_mem_written he
    exact hk ▸ (hs.whole n f hf).1
  · obtain ⟨f, hf, hk⟩ := wire_of_mem_written he
    exact hk ▸ List.mem_map_of_mem hf

theorem ofValue_eq_null {d : Value} : (ofValue d : Instance ν) = .plain .null ↔ d = .null := by
  cases d <;> simp [ofValue]

theorem dump_ofValue (d : Value) : (ofValue d : Instance ν).dump schema = d := by
  cases d <;> simp [ofValue, dump, dumpAll_eq, Function.comp_def]

theorem gapsAs_ofValue (s : Shape ν) (d : Value) : (ofValue d).gapsAs schema s = [] := by
  cases d <;> simp [ofValue, gapsAs, gapsAll_eq]
  intro i k h
  obtain ⟨v, -, rfl⟩ := List.mem_map.mp (List.fst_mem_of_mem_zipIdx h)
  rfl

/-- A field is read as it was written, or else is missing. -/
theorem fieldOutcome_written (hs : schema.Faithful) {n : ν} {values : List (Instance ν)} {l : Nat}
    {f : Field ν} {v : Instance ν} (h : (f, v) ∈ (schema n).fields.zip values)
    (hnull : (∀ d, f.fallback = some d → v ≠ .ofValue d) → v.isNull = true →
      f.shape.admitsNull = true)
    (hfit : (∀ d, f.fallback = some d → v ≠ .ofValue d) → ∃ j, j.bare = v.bare ∧
      (v.dump schema).checker schema (l - f.level) f.shape =
        lacking j (v.gapsAs schema f.shape)) :
    ∃ j, j.bare = v.bare ∧
      fieldOutcome schema l (textKeyed (written schema (schema n).fields values)) f =
        lacking j (gapsField schema f v) := by
  have hmem := (List.of_mem_zip h).1
  unfold fieldOutcome gapsField
  simp only [textKeyed, findAny?_text_keys, find?_written (hs.wires n) h]
  by_cases hv : v.isNull = true
  · obtain rfl := isNull_iff.mp hv
    simp only [hv, if_true, find?_name_written hs h hv]
    refine ⟨_, rfl, ?_⟩
    cases hd : f.fallback with
    | none => rfl
    | some d =>
      rcases Field.null_or_stands (hs.settled n f hmem) hd with rfl | hst
      · rfl
      · obtain ⟨hno, hne⟩ := not_admitsNull_of_stands hst
        have hd' : ∀ d', f.fallback = some d' → (.plain .null : Instance ν) ≠ .ofValue d' := by
          intro d' hd' he
          rw [hd] at hd'
          exact hne (Option.some.inj hd' ▸ ofValue_eq_null.mp he.symm)
        simp [hnull hd' rfl] at hno
  · simp only [hv, if_false, Bool.false_eq_true]
    rcases f.absent_or v with ⟨d, hfd, rfl⟩ | hne
    · refine ⟨.ofValue d, rfl, ?_⟩
      rcases Field.null_or_stands (hs.settled n f hmem) hfd with rfl | hst
      · simp [ofValue, isNull] at hv
      · rw [dump_ofValue, gapsAs_ofValue, checker_stands hst]
        rfl
    · obtain ⟨j, hj, hc⟩ := hfit hne
      exact ⟨j, hj, by rw [hc, under_lacking]⟩

/-- A model is read as it was written, or else some of its fields are missing. -/
theorem checker_written (hs : schema.Faithful) {l : Nat} {n : ν} {given : List Bool}
    {values : List (Instance ν)} (hl : (schema n).level ≤ l)
    (hlen : (schema n).fields.length = values.length)
    (hfields : ∀ p ∈ (schema n).fields.zip values, ∃ j, j.bare = p.2.bare ∧
      fieldOutcome schema (l - (schema n).level)
        (textKeyed (written schema (schema n).fields values)) p.1 =
          lacking j (gapsField schema p.1 p.2))
    (hr : (schema n).rule.bind (ruleFault? schema · (.model n given values)) = none) :
    ∃ j, j.bare = (model n given values).bare ∧
      (Value.obj (written schema (schema n).fields values)).checker schema l (.model n) =
        lacking j (gapsFields schema (schema n).fields values) := by
  choose! j hj hc using hfields
  have firsts : ((schema n).fields.zip values).map (·.1) = (schema n).fields :=
    List.map_fst_zip (Nat.le_of_eq hlen)
  have seconds : ((schema n).fields.zip values).map (·.2) = values :=
    List.map_snd_zip (Nat.le_of_eq hlen.symm)
  have hbare : (((schema n).fields.zip values).map j).map bare = values.map bare := by
    conv_rhs => rw [← seconds]
    rw [List.map_map, List.map_map]
    exact List.map_congr_left hj
  have outcomes : collect ((schema n).fields.map (fieldOutcome schema (l - (schema n).level)
      (textKeyed (written schema (schema n).fields values)))) =
        lacking (((schema n).fields.zip values).map j)
          (gapsFields schema (schema n).fields values) := by
    rw [gapsFields_eq, ← collect_lacking, ← List.map_congr_left hc]
    conv_lhs => rw [← firsts, List.map_map, firsts]
    rfl
  have same : (instanceOf schema n (textKeyed (written schema (schema n).fields values))
      (((schema n).fields.zip values).map j)).bare = (model n given values).bare := by
    simp [instanceOf, hbare]
  have hrule : (schema n).rule.bind (ruleFault? schema · (instanceOf schema n
      (textKeyed (written schema (schema n).fields values))
      (((schema n).fields.zip values).map j))) = none := by
    rw [← hr]
    congr 1
    funext r
    rw [← ruleFault?_bare, same, ruleFault?_bare]
  refine ⟨_, same, ?_⟩
  have hnone := strangers_written hs n values
  rw [checker_obj_model, checkModel, if_neg (Nat.not_lt.mpr hl),
    checkFields_eq (isTornRecord_of_strangers_eq_nil hnone), outcomes, hnone]
  cases gapsFields schema (schema n).fields values with
  | nil => simp only [lacking_nil, hrule]
  | cons gap gaps => simp [lacking]

theorem tagSteps_tagged (hs : schema.Faithful) {tag t : String}
    {choices : List (String × ν)} {n : ν} {values : List (Instance ν)} {f : Field ν}
    (hmem : (f, .plain (.str t)) ∈ (schema n).fields.zip values) (hw : f.wire = tag) :
    tagSteps (.tagged tag choices) (schema n).fields values = [.key t] := by
  have hfind := find?_zip (hs.wires n) hmem
  rw [hw] at hfind
  simp [tagSteps, tag?, hfind, text, text?]

/-- What is written is read as the same instance, or some required fields in it are missing. -/
theorem checker_dump (hs : schema.Faithful) {l : Nat} {s : Shape ν} {v : Value} {i : Instance ν}
    (hf : s.isFaithful schema = true) (h : Reads schema l s v i) :
    ∃ j, j.bare = i.bare ∧
      (i.dump schema).checker schema l s = lacking j (i.gapsAs schema s) := by
  induction h with
  | plain hp hc =>
    obtain ⟨w, hw, hk⟩ := checker_plain hp hc
    obtain rfl := plain.inj hw
    exact ⟨_, rfl, hk _⟩
  | null => exact ⟨_, rfl, rfl⟩
  | @some l s v i hi _ ih =>
    obtain ⟨j, hj, hc⟩ := ih hf
    have hd : i.dump schema ≠ .null := by
      intro hd
      simp [dump_eq_null.mp hd, isNull] at hi
    exact ⟨j, hj, by rw [checker_optional hd, gapsAs_optional, hc]⟩
  | @list l least s v is origin hl _ _ ih =>
    have ih' : ∀ i ∈ is, ∃ j, j.bare = i.bare ∧
        (i.dump schema).checker schema l s = lacking j (i.gapsAs schema s) :=
      fun i hi => ih i hi hf
    choose! j hj hc using ih'
    refine ⟨.list (is.map j), by simpa using hj, ?_⟩
    rw [dump, dumpAll_eq, checker_list_list, checkList_lacking hl hc, gapsAs, gapsAll_eq]
    rfl
  | @table l s v es origin _ _ ih =>
    have ih' : ∀ e ∈ es, ∃ j, j.bare = e.2.bare ∧
        (e.2.dump schema).checker schema l s = lacking j (e.2.gapsAs schema s) :=
      fun e he => ih e he hf
    choose! j hj hc using ih'
    refine ⟨.table (es.map fun e => (e.1, j e)), by simpa using hj, ?_⟩
    rw [dump, dumpEntries_eq, gapsAs, gapsEntries_eq]
    exact checkTable_lacking hc
  | @model l n v given values origin hl hlen _ hread hr ih =>
    have hfields : ∀ p ∈ (schema n).fields.zip values, ∃ j, j.bare = p.2.bare ∧
        fieldOutcome schema (l - (schema n).level)
          (textKeyed (written schema (schema n).fields values)) p.1 =
            lacking j (gapsField schema p.1 p.2) := by
      intro p hp
      have hshape := hs.shapes n p.1 (List.of_mem_zip hp).1
      refine fieldOutcome_written hs hp (fun hd hn => ?_) fun hd => ih p hp hd hshape
      exact admitsNull_of_reads (isNull_iff.mp hn ▸ hread p hp hd) hshape
    rw [dump_model, gapsAs_model]
    exact checker_written hs hl hlen hfields hr
  | @tagged l tag t choices n v given values f hc hmem hw _ ih =>
    obtain ⟨j, hj, hm⟩ := ih rfl
    have hfind : find? f.wire (written schema (schema n).fields values) = some (.str t) :=
      find?_written (hs.wires n) hmem
    refine ⟨j, hj, ?_⟩
    rw [dump_model] at hm ⊢
    rw [hw] at hfind
    rw [checker_obj_tagged, hfind]
    simp only [hc, hm, gapsAs_model, under_lacking]
    rw [gapsAs, tagSteps_tagged hs hmem hw]
    rfl

end Instance
end SchemaIntents
