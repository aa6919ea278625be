import SchemaIntents.Proofs.Context.Construction
import SchemaIntents.Proofs.Shape.Findings
import SchemaIntents.Proofs.Value.Json

/-! Which arguments make a context: nothing can be wrong with those of a document but the name of a
model, which has to be a text. -/
namespace SchemaIntents.Context

open Shape

variable {s : Settings} {l : Nat}

instance : (schema s).Whole where
  whole := by
    have keys : ∀ key ∈ ["intent_id", "project_id", "oiml_version", "model",
        "existing_entities", "options",
        "auto_index", "table_naming_convention"], Text.isTorn key = false := by decide +kernel
    intro n f hf
    refine ⟨keys f.wire ?_, keys f.name ?_⟩ <;> cases n <;>
      simp only [schema, List.mem_cons, List.not_mem_nil, or_false] at hf <;>
      rcases hf with rfl | rfl | rfl | rfl | rfl | rfl <;> simp

/-- What is found wrong with the name of a model. -/
def modelIssues : Value → List Issue
  | .null => []
  | .str _ => []
  | _ => [⟨.notText, []⟩]

theorem modelIssues_eq_nil {w : Value} : modelIssues w = [] ↔ w = .null ∨ ∃ t, w = .str t := by
  cases w <;> simp [modelIssues]

theorem finds_model {w : Value} (hw : w.IsJson) :
    Finds (w.checker (schema s) l (.optional .anyText)) (modelIssues w) := by
  cases hw with
  | null => exact ⟨_, rfl⟩
  | str t => exact fits_optional (by simp)
  | _ => rfl

theorem fits_names (names : List String) : Finds
    ((Value.texts names).checker (schema s) l .names) [] := by
  obtain ⟨i, hi⟩ : Finds ((Value.texts names).checker (schema s) l (.list 0 .anyText)) [] :=
    fits_texts (Nat.zero_le _)
  refine ⟨i, ?_⟩
  rw [Value.texts, checker_list_list] at hi
  simpa [Value.checker, checkParts, Value.parts, Value.texts, checkNames,
    Value.checkers_eq] using hi

theorem fits_options (s : Settings) :
    Finds ((defaultOptions s).checker (schema s) l (.model .options)) [] := by
  have hname : s.tables.name ∈ ["snake_case", "camelCase", "PascalCase"] := by
    cases s.tables <;> decide
  rw [defaultOptions]
  refine fits_obj (n := Name.options) (Nat.zero_le _) rfl (by simp [areFields, schema]) ?_
  intro f hf
  simp only [schema, List.mem_cons, List.not_mem_nil, or_false] at hf
  rcases hf with rfl | rfl
  · exact fits_flag _
  · exact fits_oneOf.mpr hname

/-- What a document and its request say of a context: all but its options. -/
def stated (id project version : String) (model known : Value) : List (String × Value) :=
  [("intent_id", .str id), ("project_id", .str project), ("oiml_version", .str version),
    ("model", model), ("existing_entities", known)]

/-- What is stated of a context, with the options of settings. -/
def completed (s : Settings) (id project version : String) (model known : Value) :
    List (String × Value) :=
  stated id project version model known ++ [("options", defaultOptions s)]

variable {id project version : String} {model known known' : Value}

/-- What is found wrong with what is stated of a context. -/
def statedIssues (id project : String) (model : Value) : List Issue :=
  (someTextIssues id).map (·.under (.key "intent_id")) ++
    (someTextIssues project).map (·.under (.key "project_id")) ++
    (modelIssues model).map (·.under (.key "model"))

theorem finds_given (hversion : Pattern.version.accepts version = true)
    (hmodel : model.IsJson) (hknown : known = .null ∨ ∃ names, known = .texts names) :
    Finds ((Value.obj (completed s id project version model known)).checker (schema s) levelLimit
      (.model .context)) (statedIssues id project model) := by
  have hfields : ∀ f ∈ (schema s .context).fields, FindsAt (schema s)
      (levelLimit - (schema s .context).level - f.level) f.shape
      (mayLack f (completed s id project version model known))
      (Value.find? f.wire (completed s id project version model known))
      (match f.wire with
        | "intent_id" => someTextIssues id
        | "project_id" => someTextIssues project
        | "model" => modelIssues model
        | _ => []) := by
    intro f hf
    simp only [schema, List.mem_cons, List.not_mem_nil, or_false] at hf
    rcases hf with rfl | rfl | rfl | rfl | rfl | rfl
    · exact finds_someText id
    · exact finds_someText project
    · exact fits_text.mpr (textFault?_formed.mpr ⟨Pattern.isTorn_of_version hversion, hversion⟩)
    · exact finds_model hmodel
    · rcases hknown with rfl | ⟨names, rfl⟩
      · exact ⟨_, rfl⟩
      · exact fits_optional (fits_names names)
    · exact fits_options s
  have hfound := finds_obj (n := Name.context) (Nat.zero_le _) rfl
    (by simp [areFields, schema, completed, stated]) hfields
  simpa [schema, statedIssues] using hfound

/-- Options that are not stated are those of the settings. -/
theorem ofArguments_stated (hknown : collection known = .ok known') :
    ofArguments (.ok s) (stated id project version model known) =
      match (Value.obj (completed s id project version model known')).checker (schema s) levelLimit
        (.model .context) with
      | .ok i => .ok (ofInstance s i)
      | .error is => .error (.issues is) := by
  have hversion : settingsIf (Value.find? "oiml_version"
      (stated id project version model known)).isNone (.ok s) = .ok none := rfl
  have hoptions : settingsIf (leavesOptions (Value.find? "options"
      (stated id project version model known))) (.ok s) = .ok (some s) := rfl
  have hcollected : collection ((Value.find? "existing_entities"
      (stated id project version model known)).getD .null) = .ok known' := hknown
  simp only [ofArguments, hversion, hoptions, hcollected, bind, Except.bind]
  rw [← Value.check_eq_checker]
  rfl

variable (s id project) in
/-- What is stated makes a context, unless something is found wrong with it. -/
theorem ofArguments_of_stated (hversion : Pattern.version.accepts version = true)
    (hmodel : model.IsJson) (hknown : known = .null ∨ ∃ names, known = .texts names) :
    (statedIssues id project model = [] →
      ∃ c, ofArguments (.ok s) (stated id project version model known) = .ok c) ∧
    (statedIssues id project model ≠ [] →
      ofArguments (.ok s) (stated id project version model known) =
        .error (.issues (statedIssues id project model))) := by
  obtain ⟨known', hcollected, hknown'⟩ : ∃ known', collection known = .ok known' ∧
      (known' = .null ∨ ∃ names, known' = .texts names) := by
    rcases hknown with rfl | ⟨names, rfl⟩
    · exact ⟨.null, rfl, .inl rfl⟩
    · obtain ⟨once, honce, -⟩ := collection_of_lists (.list names)
      exact ⟨_, honce, .inr ⟨once, rfl⟩⟩
  have hfinds : Finds ((Value.obj (completed s id project version model known')).checker (schema s)
      levelLimit (.model .context)) (statedIssues id project model) :=
    finds_given hversion hmodel hknown'
  rw [ofArguments_stated hcollected]
  constructor
  · intro hnone
    rw [hnone] at hfinds
    obtain ⟨i, hi⟩ := hfinds
    exact ⟨_, by rw [hi]⟩
  · intro hsome
    rw [(finds_of_ne_nil hsome).mp hfinds]

end SchemaIntents.Context
