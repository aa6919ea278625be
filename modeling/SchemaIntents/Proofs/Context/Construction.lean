import SchemaIntents.Context
import SchemaIntents.Proofs.Shape.Reading
import SchemaIntents.Proofs.Shape.Record
import SchemaIntents.Proofs.Value.Entries

/-! What is known of a context that was made from arguments: it says whose intents it is for, and it
knows the entities that it was given. -/
namespace SchemaIntents

namespace Value

@[simp] theorem sameKey_str (a b : String) : sameKey (.str a) (.str b) = decide (a = b) := rfl

end Value

namespace Pattern

open Text

theorem halfMark_of_isNumber {cs : List Char} (h : isNumber cs = true) : halfMark ∉ cs := by
  have decimal : isAnyDecimal halfMark = false := by decide +kernel
  have high : ¬ halfMark ≤ '9' := by decide
  intro hmem
  unfold isNumber at h
  split at h
  · exact absurd (List.mem_singleton.mp hmem) (by decide)
  · simp only [Bool.and_eq_true, decide_eq_true_eq, List.all_eq_true] at h
    rcases List.mem_cons.mp hmem with rfl | hmem
    · exact high h.1.2
    · exact Bool.noConfusion (decimal.symm.trans (h.2 _ hmem))
  · cases h

/-- A version has no halves of pairs. -/
theorem isTorn_of_version {t : String} (h : version.accepts t = true) : isTorn t = false := by
  have parts {cs rest : List Char} (hcs : halfMark ∉ cs.takeWhile (· != '.'))
      (hrest : cs.dropWhile (· != '.') = '.' :: rest) (h : halfMark ∉ rest) : halfMark ∉ cs := by
    rw [← List.takeWhile_append_dropWhile (p := (· != '.')) (l := cs), hrest, List.mem_append,
      List.mem_cons]
    exact fun hmem => hmem.elim hcs fun h' => h'.elim (by decide) h
  simp only [accepts, isVersion] at h
  split at h
  · rename_i rest hmajor
    split at h
    · rename_i patch hminor
      simp only [Bool.and_eq_true] at h
      have whole : halfMark ∉ t.toList := parts (halfMark_of_isNumber h.1.1) hmajor
        (parts (halfMark_of_isNumber h.1.2) hminor (halfMark_of_isNumber h.2))
      simpa [isTorn] using whole
    · cases h
  · cases h

end Pattern

namespace Context

/-- A value is a collection of texts: a list of them, a set, or a mapping with them as keys. -/
inductive Lists : Value → List String → Prop
  | list (names : List String) : Lists (.texts names) names
  | set {names : List String} : names.Nodup → Lists (.set (names.map .str)) names
  | keys {es : List (String × Value)} : (es.map (·.1)).Nodup → Lists (.obj es) (es.map (·.1))

/-- Texts stay, each of them once. -/
theorem distinct_texts (names : List String) :
    ∃ once : List String, distinct (names.map .str) = once.map .str ∧ once.Nodup ∧
      ∀ n, n ∈ once ↔ n ∈ names := by
  induction names with
  | nil => exact ⟨[], rfl, by simp, by simp⟩
  | cons name names ih =>
    obtain ⟨once, hd, hn, hm⟩ := ih
    refine ⟨name :: once.filter (name ≠ ·), ?_, ?_, fun n => ?_⟩
    · simp [distinct, hd, List.filter_map, Function.comp_def]
    · exact List.nodup_cons.mpr ⟨by simp, hn.filter _⟩
    · by_cases hne : n = name
      · simp [hne]
      · simp [hne, hm, Ne.symm hne]

/-- A collection of texts is taken as a list of its different members. -/
theorem collection_of_lists {v : Value} {names : List String} (h : Lists v names) :
    ∃ once : List String, collection v = .ok (.texts once) ∧ once.Nodup ∧
      ∀ n, n ∈ once ↔ n ∈ names := by
  cases h with
  | list =>
    obtain ⟨once, hd, hn, hm⟩ := distinct_texts names
    have hashable : (names.map Value.str).find? (fun i => !isHashable i) = none := by
      simp [List.find?_eq_none, isHashable]
    exact ⟨once, by simp only [collection, Value.texts, hashable, hd], hn, hm⟩
  | set hn => exact ⟨names, rfl, hn, fun _ => Iff.rfl⟩
  | keys hn => exact ⟨_, rfl, hn, fun _ => Iff.rfl⟩

theorem names_nodup (s : Settings) (n : Name) : ((schema s n).fields.map (·.name)).Nodup := by
  cases n <;> simp [schema, Field.required, Field.defaulted, Field.maybe]

/-- A list of texts fits a collection of names as it is. -/
theorem checker_names_texts {s : Settings} {names : List String} {l : Nat} {i : Instance Name}
    (h : (Value.texts names).checker (schema s) l .names = .ok i) :
    i.items?.map (fun is => is.map Instance.text) = some names := by
  have hl : (Value.texts names).checker (schema s) l (.list 0 Shape.anyText) = .ok i := by
    simpa [Value.checker, Shape.checkParts, Value.parts, Value.texts, Shape.checkNames,
      Value.checkers_eq] using h
  have htexts := Shape.texts_of_checker hl
  rw [Value.texts, Shape.checker_list_list] at hl
  obtain ⟨is, rfl, -, -⟩ := Shape.checkList_eq_ok.mp hl
  exact congrArg some htexts

/-- What a context is made of. The settings are those that hold, if they are asked for a version. -/
theorem ofArguments_eq_ok {settings : Except Settings.Fault Settings}
    {arguments : List (String × Value)} {c : Context} (h : ofArguments settings arguments = .ok c) :
    ∃ (s : Settings) (known options : Value) (i : Instance Name),
      collection ((Value.find? "existing_entities" arguments).getD .null) = .ok known ∧
      (Value.obj (Value.put "options" options
        (Value.put "existing_entities" known arguments))).checker
        (schema s) Shape.levelLimit (.model .context) = .ok i ∧
      c = ofInstance s i ∧ (Value.find? "oiml_version" arguments = none → settings = .ok s) := by
  simp only [ofArguments] at h
  obtain ⟨forVersion, hversion, h⟩ := bind_eq_ok h
  obtain ⟨known, hknown, h⟩ := bind_eq_ok h
  obtain ⟨forOptions, -, h⟩ := bind_eq_ok h
  split at h
  · obtain rfl := Except.ok.inj h
    refine ⟨_, known, _, _, hknown, ‹_›, rfl, fun hnone => ?_⟩
    cases settings with
    | ok s =>
      obtain rfl : some s = forVersion := by simpa [settingsIf, hnone] using hversion
      rfl
    | error fault => simp [settingsIf, hnone] at hversion
  · exact absurd h throw_ne_ok

/-- A context knows the entities that it was given. -/
theorem known_of_lists {settings : Except Settings.Fault Settings}
    {arguments : List (String × Value)}
    {c : Context} {v : Value} {names : List String} (h : ofArguments settings arguments = .ok c)
    (hv : Value.find? "existing_entities" arguments = some v) (hl : Lists v names) :
    ∃ once : List String, c.known = some once ∧ once.Nodup ∧ ∀ n, n ∈ once ↔ n ∈ names := by
  obtain ⟨once, hc, hn, hm⟩ := collection_of_lists hl
  obtain ⟨s, known, options, i, hknown, hi, rfl, -⟩ := ofArguments_eq_ok h
  rw [hv, Option.getD_some, hc] at hknown
  obtain rfl := Except.ok.inj hknown
  have hf := Instance.field_of_checker
    (f := .maybe "existing_entities" "existing_entities" .names) (names_nodup s .context) hi
    (by simp [schema]) (by
      rw [Value.find?_put_of_ne (by simp [Field.maybe])]
      exact Value.find?_put_self _ _ _)
  rw [Field.maybe, Shape.checker_optional (by simp [Value.texts])] at hf
  exact ⟨once, checker_names_texts hf, hn, hm⟩

/-- A context can stand in the provenance of envelopes. -/
@[mk_iff]
structure IsValid (c : Context) : Prop where
  intentId_proper : Text.IsProper c.intentId
  projectId_proper : Text.IsProper c.projectId
  version_accepted : Pattern.version.accepts c.version = true

instance : DecidablePred IsValid := fun c => decidable_of_iff' _ (isValid_iff c)

theorem IsValid.withKnown {c : Context} (h : c.IsValid) (known : Option (List String)) :
    (c.withKnown known).IsValid :=
  ⟨h.intentId_proper, h.projectId_proper, h.version_accepted⟩

/-- A context that is made from arguments says whose intents it is for. -/
theorem ids_of_ofArguments {settings : Except Settings.Fault Settings}
    {arguments : List (String × Value)} {c : Context} (h : ofArguments settings arguments = .ok c) :
    Text.IsProper c.intentId ∧ Text.IsProper c.projectId := by
  obtain ⟨s, known, options, i, -, hi, rfl, -⟩ := ofArguments_eq_ok h
  have stated : ∀ {name : String}, .required name name .someText ∈ (schema s .context).fields →
      Text.IsProper (i.field (schema s) name).text := by
    intro name hf
    obtain ⟨w, -, hw⟩ := Instance.field_of_required (names_nodup s .context) hi hf
    rw [Shape.checker_text] at hw
    obtain ⟨t, -, ht, hfield⟩ := Shape.readWith_eq_ok.mp hw
    rw [hfield]
    exact Shape.textFault?_some.mp ht
  exact ⟨stated (by simp [schema]), stated (by simp [schema])⟩

/-- A context that is made from arguments has all that provenance needs but a version. -/
theorem isValid_iff_of_ofArguments {settings : Except Settings.Fault Settings}
    {arguments : List (String × Value)} {c : Context} (h : ofArguments settings arguments = .ok c) :
    c.IsValid ↔ Pattern.version.accepts c.version = true :=
  ⟨fun hc => hc.version_accepted,
    fun hversion => ⟨(ids_of_ofArguments h).1, (ids_of_ofArguments h).2, hversion⟩⟩

end Context
end SchemaIntents
