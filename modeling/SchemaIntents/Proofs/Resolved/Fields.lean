import SchemaIntents.Ir.Schema
import SchemaIntents.Proofs.Ir.Faithful
import SchemaIntents.Proofs.Shape.Deciding
import SchemaIntents.Resolved.Field

/-! Resolved fields that keep the bounds of the schema fit it, whatever options they combine, unless
they have an enumeration with halves of pairs in its texts. -/
namespace SchemaIntents.Resolved

open Shape

structure Reference.Sound (r : Reference) : Prop where
  targetEntity_proper : Text.IsProper r.targetEntity
  onDelete_mem : ∀ a, r.onDelete = some a → a ∈ ["Restrict", "Cascade", "SetNull"]
  reverse_proper : ∀ s, r.reverse = some s → Text.IsProper s.fieldName

/-- A type keeps to the primitive types, and names and values of enumerations are not empty. -/
def FieldType.Sound : FieldType → Prop
  | scalar kind => kind ∈ Ir.scalarKinds
  | json => True
  | enumeration name values => name ≠ "" ∧ values ≠ [] ∧ "" ∉ values
  | array element => element ∈ Ir.scalarKinds
  | reference r => r.Sound

def Default.Sound : Default → Prop
  | literal v => isScalar v = true
  | _ => True

def Validation.Sound : Validation → Prop
  | maxLength n => 0 < n
  | minLength n => 0 ≤ n
  | _ => True

/-- No text of a type has halves of pairs. -/
def FieldType.IsWhole : FieldType → Prop
  | enumeration name values => Text.isTorn name = false ∧ ∀ value ∈ values,
      Text.isTorn value = false
  | _ => True

/-- Among fields is one with halves of pairs in its type. -/
def HasTornType (owner : String) (fs : List Intent.AuthoredField) : Prop :=
  ∃ f ∈ fs, ∃ t, typeOf f owner = .ok t ∧ ¬ t.IsWhole

structure Field.Sound (r : Field) : Prop where
  name_proper : Text.IsProper r.name
  type_sound : r.type.Sound
  default_sound : ∀ d, r.default = some d → d.Sound
  validations_sound : ∀ v ∈ r.validations, v.Sound

section Fits

variable {l : Nat}

@[simp] theorem fits_cardinality (c : Cardinality) :
    Finds ((Value.str c.name).checker Ir.schema l Ir.cardinality) [] := by
  cases c <;> exact fits_oneOf.mpr (by decide)

theorem fits_reverse {s : ReverseSide} (h : Text.IsProper s.fieldName) :
    Finds (s.toValue.checker Ir.schema l (.model .reverseRelation)) [] := by
  refine fits_obj (Nat.zero_le _) rfl rfl ?_
  simp [Ir.schema, Ir.reverseRelation, Value.find?, h]

theorem fits_reference {r : Reference} (h : r.Sound) :
    Finds (r.toValue.checker Ir.schema l (.model .referenceType)) [] := by
  refine fits_present (Nat.zero_le _) rfl rfl ?_
  simp [Ir.schema, Ir.referenceType, h.targetEntity_proper]
  exact ⟨fun a ha => by simpa using h.onDelete_mem a ha,
    fun s hs => fits_optional (fits_reverse (h.reverse_proper s hs))⟩

theorem fits_scalarType {kind : String} (h : kind ∈ Ir.scalarKinds) :
    Finds ((Value.obj [("kind", .str kind)]).checker Ir.schema l Ir.fieldType) [] := by
  have choice : ∀ k ∈ Ir.scalarKinds,
      (Ir.scalarKinds.map (·, Ir.Name.scalarType)).find? (·.1 == k) = some (k, .scalarType) := by
    decide
  refine fits_tagged rfl (n := .scalarType) ?_ (fits_obj (Nat.zero_le _) rfl rfl ?_)
  · rw [List.find?_append, choice kind h, Option.some_or]
  · simpa [Ir.schema, Ir.scalarType, Value.find?] using h

/-- An enumeration fits if none of its texts has halves of pairs. -/
theorem decides_enumeration {name : String} {values : List String} (hname : name ≠ "")
    (hvalues : values ≠ []) (hempty : "" ∉ values) :
    Decides ((FieldType.enumeration name values).toValue.checker Ir.schema l Ir.fieldType)
      (FieldType.IsWhole (.enumeration name values)) := by
  have hnamed : Decides ((Value.str name).checker Ir.schema l .someText)
    (Text.isTorn name = false) :=
    decides_someText hname
  have hlisted : Decides ((Value.texts values).checker Ir.schema l (.list 1 .someText))
      (∀ value ∈ values, Text.isTorn value = false) := by
    refine (decides_map fun value hv => decides_someText fun he => hempty (he ▸ hv)).congr ?_
    exact and_iff_right (List.length_pos_iff.mpr hvalues)
  refine decides_tagged rfl rfl ((decides_obj (n := Ir.Name.enumType)
    (p := fun key => (key = "name" → Text.isTorn name = false) ∧
      (key = "values" → ∀ value ∈ values, Text.isTorn value = false))
    (Nat.zero_le _) rfl rfl ?_).congr ?_)
  · simp [Ir.schema, Ir.enumType, Value.find?, hnamed]
    exact hlisted
  · simp [Ir.schema, Ir.enumType, FieldType.IsWhole]

/-- A type that keeps to the bounds fits if none of its texts has halves of pairs. -/
theorem decides_fieldType {t : FieldType} (h : t.Sound) (hl : 1 ≤ l) :
    Decides (t.toValue.checker Ir.schema l Ir.fieldType) t.IsWhole := by
  cases t with
  | scalar kind => exact decides_true.mpr (fits_scalarType h)
  | json =>
    refine decides_true.mpr ?_
    refine fits_tagged rfl rfl (fits_obj (Nat.zero_le _) rfl rfl ?_)
    simp [Ir.schema, Ir.jsonType, Value.find?]
  | enumeration name values =>
    obtain ⟨hname, hvalues, hempty⟩ := h
    exact decides_enumeration hname hvalues hempty
  | array element =>
    refine decides_true.mpr ?_
    refine fits_tagged rfl rfl (fits_obj hl rfl rfl ?_)
    have he := fits_scalarType h (l := l - 1)
    simp [Ir.schema, Ir.arrayType, Value.find?, he]
  | reference r => exact decides_true.mpr (fits_tagged rfl rfl (fits_reference h))

theorem fits_default {d : Default} (h : d.Sound) :
    Finds (d.toValue.checker Ir.schema l Ir.defaultValue) [] := by
  cases d with
  | literal v =>
    refine fits_tagged rfl rfl (fits_obj (Nat.zero_le _) rfl rfl ?_)
    have hv : Finds (v.checker Ir.schema l .scalar) [] := by
      rw [Value.checker, checkParts, if_pos (show isScalar v = true from h)]
      exact ⟨_, rfl⟩
    simp [Ir.schema, Ir.literalDefault, Value.find?, hv]
  | now =>
    refine fits_tagged rfl rfl (fits_obj (Nat.zero_le _) rfl rfl ?_)
    simp [Ir.schema, Ir.nowDefault, Value.find?]
  | uuid =>
    refine fits_tagged rfl rfl (fits_obj (Nat.zero_le _) rfl rfl ?_)
    simp [Ir.schema, Ir.uuidDefault, Value.find?]
  | autoIncrement =>
    refine fits_tagged rfl rfl (fits_obj (Nat.zero_le _) rfl rfl ?_)
    simp [Ir.schema, Ir.autoIncrementDefault, Value.find?]

theorem fits_strategy (s : Strategy) :
    Finds (s.toValue.checker Ir.schema l (.model .generated)) [] := by
  refine fits_obj (Nat.zero_le _) rfl rfl ?_
  cases s <;> simp [Ir.schema, Ir.generated, Value.find?]

theorem fits_validation {v : Validation} (h : v.Sound) :
    Finds (v.toValue.checker Ir.schema l Ir.validation) [] := by
  cases v with
  | maxLength n =>
    refine fits_tagged rfl rfl (fits_obj (Nat.zero_le _) rfl rfl ?_)
    have hn : ¬ n ≤ 0 := Int.not_le.mpr h
    simp [Ir.schema, Ir.maxLengthValidation, Value.find?, boundFault?, hn]
  | minLength n =>
    refine fits_tagged rfl rfl (fits_obj (Nat.zero_le _) rfl rfl ?_)
    have hn : ¬ n < 0 := Int.not_lt.mpr h
    simp [Ir.schema, Ir.minLengthValidation, Value.find?, boundFault?, hn]
  | pattern regex =>
    refine fits_tagged rfl rfl (fits_obj (Nat.zero_le _) rfl rfl ?_)
    simp [Ir.schema, Ir.patternValidation, Value.find?]
  | min x =>
    refine fits_tagged rfl rfl (fits_obj (Nat.zero_le _) rfl rfl ?_)
    simp [Ir.schema, Ir.minValidation, Value.find?]
  | max x =>
    refine fits_tagged rfl rfl (fits_obj (Nat.zero_le _) rfl rfl ?_)
    simp [Ir.schema, Ir.maxValidation, Value.find?]

theorem fits_exposure (e : Intent.Exposure) :
    Finds ((exposureValue e).checker Ir.schema l (.model .fieldApi)) [] := by
  refine fits_present (Nat.zero_le _) rfl rfl ?_
  simp [Ir.schema, Ir.fieldApi]
  exact fun ts _ => fits_optional (fits_texts (Nat.zero_le _))

@[simp] theorem fits_whenTrue {absent b : Bool} :
    FindsAt Ir.schema l (.optional .flag) absent (whenTrue b) [] ↔ (b = false → absent = true) := by
  cases b <;> simp [whenTrue]

@[simp] theorem whenTrue_eq_none {b : Bool} : whenTrue b = none ↔ b = false := by
  cases b <;> simp [whenTrue]

/-- A field within the bounds of the schema finds what its type does. -/
theorem finds_field {r : Field} {issues : List Issue} (h : r.Sound)
    (htype : Finds (r.type.toValue.checker Ir.schema (l - 1) Ir.fieldType) issues) :
    Finds (r.toValue.checker Ir.schema l (.model .field)) (issues.map (·.under (.key "type"))) := by
  have hfields : ((Ir.schema .field).fields.flatMap fun f =>
      (if f.wire = "type" then issues else []).map (·.under (.key f.wire))) =
      issues.map (·.under (.key "type")) := by
    simp [Ir.schema, Ir.field]
  rw [← hfields]
  refine finds_present (Nat.zero_le _) rfl rfl ?_
  simp [Ir.schema, Ir.field, h.name_proper, htype]
  refine ⟨fun d hd => fits_optional (fits_default (h.default_sound d hd)),
    fun s _ => fits_optional (fits_strategy s), fun _ => fits_list (Nat.zero_le _) fun v hv => ?_,
    fun e _ => fits_optional (fits_exposure e), fun _ => fits_texts (Nat.zero_le _)⟩
  obtain ⟨w, hw, rfl⟩ := List.mem_map.mp hv
  exact fits_validation (h.validations_sound w hw)

/-- A field within the bounds of the schema fits it if its type does. -/
theorem decides_field {r : Field} (h : r.Sound) (hl : 2 ≤ l) :
    Decides (r.toValue.checker Ir.schema l (.model .field)) r.type.IsWhole := by
  obtain ⟨issues, hfound, hwhole⟩ := decides_fieldType (l := l - 1) h.type_sound (by omega)
  exact ⟨_, finds_field h hfound, by rwa [List.map_eq_nil_iff]⟩

end Fits

end SchemaIntents.Resolved
