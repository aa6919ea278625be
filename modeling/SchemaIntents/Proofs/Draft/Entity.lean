import SchemaIntents.Proofs.Draft.Bodies
import SchemaIntents.Proofs.Draft.Lookups

/-! New entities in their envelopes: whatever names fields names fields of the entity, and the
primary key is made of just the primary ones. -/
namespace SchemaIntents

open Shape

namespace Ir.Part

/-- The texts that a part lists under a name. -/
def texts (p : Part) (name : String) : List String :=
  (p.get name).items.map Instance.text

/-- The fields of an entity. -/
def fields (entity : Part) : List Part :=
  (entity.get "fields").items

/-- The name of a field. -/
def fieldName (f : Part) : String :=
  (f.get "name").text

/-- Whether a field is marked as a primary key. -/
def isPrimaryField (f : Part) : Bool :=
  (f.get "is_primary").flag

/-- The names of the fields of an entity. -/
def fieldNames (entity : Part) : List String :=
  (fields entity).map fieldName

/-- The names of the primary fields of an entity. -/
def primaryNames (entity : Part) : List String :=
  ((fields entity).filter isPrimaryField).map fieldName

/-- The position of the first primary field of the entity in an envelope. -/
def firstPrimary (ir : Part) : Nat :=
  (fields (ir.get "entity")).findIdx isPrimaryField

/-- A primary key is made of some fields: of one alone, or of several together. -/
def IsKeyOf (key : Part) (names : List String) : Prop :=
  match names with
  | [] => False
  | [name] => key.kind = "Single" ∧ (key.get "field").text = name
  | names => key.kind = "Composite" ∧ texts key "fields" = names

/-- The strategy by which the values of a field are made. -/
def strategy (f : Part) : String :=
  ((f.get "generated").get "strategy").text

/-- An entity and what was reported about it, for the intent that it was made of: the fields are the
intent's, and all that refers to fields keeps to them. -/
structure IsEntityOf (ir : Part) (i : Intent.AddEntity) : Prop where
  names_eq : fieldNames (ir.get "entity") = i.fields.map (·.name)
  names_nodup : (fieldNames (ir.get "entity")).Nodup
  key_primary : IsKeyOf (((ir.get "entity").get "storage").get "primary_key")
    (primaryNames (ir.get "entity"))
  primary_solid : ∀ f ∈ fields (ir.get "entity"), isPrimaryField f = true →
    (f.get "nullable").flag? = some false
  primary_filled_once : ∀ f ∈ fields (ir.get "entity"), isPrimaryField f = true →
    (f.get "default").isNull = true ∨ strategy f ∉ ["AutoIncrement", "UUID"]
  constraints_mem : ∀ k ∈ ((ir.get "entity").get "constraints").items, ∀ n ∈ texts k "fields",
    n ∈ fieldNames (ir.get "entity")
  tenant_mem : ∀ column,
    ((((ir.get "entity").get "storage").get "tenant_scoping").get "column").text? = some column →
      column ∈ fieldNames (ir.get "entity")
  seed_mem : ∀ g ∈ (((ir.get "entity").get "seed").get "generator_by_field").entries,
    g.1 ∈ fieldNames (ir.get "entity")
  primary_noted : ir.diagnostics.filter (·.code == "IR001") =
    [⟨"IR001", .info,
      "Inferred primary key '" ++ (primaryNames (ir.get "entity")).headD "" ++ "'",
      s!"$.fields[{ir.firstPrimary}]"⟩]

end Ir.Part

namespace Resolved

open Ir.Part (fieldName isPrimaryField strategy)

variable {l : Nat}

/-- The name of a strategy in envelopes. -/
def Strategy.word : Strategy → String
  | autoIncrement => "AutoIncrement"
  | uuid => "UUID"
  | timestamp => "Timestamp"

/-- A part says of a field what matters for keys. -/
structure Field.IsReadAs (r : Field) (f : Ir.Part) : Prop where
  name : fieldName f = r.name
  primary : isPrimaryField f = r.primary
  nullable : (f.get "nullable").flag? = some r.nullable
  default : (f.get "default").isNull = r.default.isNone
  strategy : strategy f = ((r.generated.map (·.word)).getD "")

/-- A value that is not null is read as something. -/
theorem isNull_of_checker {n : Ir.Name} {f : SchemaIntents.Field Ir.Name}
    (hf : f ∈ (Ir.schema n).fields)
    {v : Value} {i : Ir.Part} (hv : v ≠ .null) (h : v.checker Ir.schema l f.shape = .ok i) :
    i.isNull = false := by
  rw [Bool.eq_false_iff]
  intro hi
  rw [Instance.isNull_iff.mp hi] at h
  exact hv (of_checker_eq_null (Ir.schema_faithful.shapes n f hf) h).1

theorem Default.toValue_ne (d : Default) : d.toValue ≠ .null := by
  cases d <;> simp [toValue]

/-- The default of a field is read from the one that it was resolved with, and is null without
one. -/
theorem default_of_checker {r : Field} {f : Ir.Part}
    (h : r.toValue.checker Ir.schema l (.model .field) = .ok f) :
    (∃ d l, r.default = some d ∧ d.toValue.checker Ir.schema l Ir.defaultValue =
      .ok (f.get "default")) ∨ r.default = none ∧ f.get "default" = .plain .null := by
  rcases Instance.field_of_maybe "default" "default" Ir.defaultValue (Ir.names_nodup _) h
    (by simp [Ir.schema, Ir.field]) (by simp) with ⟨v, hv, hc⟩ | ⟨hnone, hfield⟩
  · obtain ⟨d, hd, rfl⟩ : ∃ d, r.default = some d ∧ d.toValue = v := by simpa using hv
    rw [checker_optional d.toValue_ne] at hc
    exact .inl ⟨d, _, hd, hc⟩
  · exact .inr ⟨by simpa using hnone, hfield⟩

theorem isReadAs_of_checker {r : Field} {f : Ir.Part}
    (h : r.toValue.checker Ir.schema l (.model .field) = .ok f) : r.IsReadAs f where
  name := Draft.text_of_payload (f := .required "name" "name" .someText) h
    (by simp [Ir.schema, Ir.field]) rfl rfl
  primary := by
    have hprimary := Instance.field_of_maybe "is_primary" "isPrimary" .flag
      (Ir.names_nodup _) h (by simp [Ir.schema, Ir.field]) (by simp)
    rcases hprimary with ⟨v, hv, hc⟩ | ⟨hnone, hfield⟩
    · obtain ⟨hr, rfl⟩ : r.primary = true ∧ .bool true = v := by simpa [whenTrue] using hv
      have hfield : f.get "is_primary" = .plain (.bool true) := (Except.ok.inj hc).symm
      rw [isPrimaryField, hfield, hr]
      rfl
    · have hr : r.primary = false := by simpa using hnone
      rw [isPrimaryField, show f.get "is_primary" = .plain .null from hfield, hr]
      rfl
  nullable := by
    have hc := Instance.field_of_checker (f := .required "nullable" "nullable" .flag)
      (Ir.names_nodup _) h (by simp [Ir.schema, Ir.field]) (v := .bool r.nullable) (by simp)
    have hfield : f.get "nullable" = .plain (.bool r.nullable) := (Except.ok.inj hc).symm
    rw [hfield]
    rfl
  default := by
    rcases default_of_checker h with ⟨d, k, hd, hc⟩ | ⟨hd, hfield⟩
    · rw [← checker_optional d.toValue_ne] at hc
      have hnull := isNull_of_checker (n := .field)
        (f := .maybe "default" "default" Ir.defaultValue)
        (by simp [Ir.schema, Ir.field]) d.toValue_ne hc
      rw [hnull, hd]
      rfl
    · rw [hfield, hd]
      rfl
  strategy := by
    have hgenerated := Instance.field_of_maybe "generated" "generated" (.model .generated)
      (Ir.names_nodup _) h (by simp [Ir.schema, Ir.field]) (by simp)
    rcases hgenerated with ⟨v, hv, hc⟩ | ⟨hnone, hfield⟩
    · obtain ⟨s, hs, rfl⟩ : ∃ s, r.generated = some s ∧ s.toValue = v := by simpa using hv
      have hvalue : s.toValue = .obj [("strategy", .str s.word)] := by cases s <;> rfl
      rw [hvalue, checker_optional (by simp)] at hc
      have hword := Instance.field_of_checker
        (f := .required "strategy" "strategy"
          (.oneOf ["AutoIncrement", "UUID", "Timestamp", "Custom"]))
        (Ir.names_nodup _) hc (by simp [Ir.schema, Ir.generated]) rfl
      obtain ⟨_, -, -, hi⟩ := checker_oneOf_eq_ok.mp hword
      rw [Ir.Part.strategy, Ir.Part.get, Ir.Part.get, hs]
      simp only [Field.required] at hi
      rw [hi]
      rfl
    · have hr : r.generated = none := by simpa using hnone
      rw [Ir.Part.strategy, Ir.Part.get, Ir.Part.get, hfield, hr]
      rfl

theorem isKeyOf_of_checker {keys : List String} {k : Ir.Part} (hk : keys ≠ [])
    (h : (primaryKey keys).checker Ir.schema l Ir.primaryKey = .ok k) : k.IsKeyOf keys := by
  match keys, hk with
  | [key], _ =>
    have hm := model_of_tagged (n := .singlePrimaryKey) rfl rfl h
    exact ⟨Draft.kind_of_payload hm (by simp [Ir.schema, Ir.singlePrimaryKey]) rfl,
      Draft.text_of_payload (f := .required "field" "field" .someText) hm
        (by simp [Ir.schema, Ir.singlePrimaryKey]) rfl rfl⟩
  | first :: second :: rest, _ =>
    have hm := model_of_tagged (n := .compositePrimaryKey) rfl rfl h
    have hfields := Instance.field_of_checker (f := .required "fields" "fields" (.list 2 .someText))
      (Ir.names_nodup _) hm (by simp [Ir.schema, Ir.compositePrimaryKey]) rfl
    exact ⟨Draft.kind_of_payload hm (by simp [Ir.schema, Ir.compositePrimaryKey]) rfl,
      texts_of_checker hfields⟩

theorem texts_constraint {k : Constraint} {p : Ir.Part}
    (h : k.toValue.checker Ir.schema l Ir.constraint = .ok p) : p.texts "fields" = k.fields := by
  cases k with
  | unique fields =>
    have hm := model_of_tagged (n := .uniqueConstraint) rfl rfl h
    exact texts_of_checker (Instance.field_of_checker
      (f := .required "fields" "fields" (.list 1 .someText)) (Ir.names_nodup _) hm
      (by simp [Ir.schema, Ir.uniqueConstraint]) rfl)
  | index fields distinct name type =>
    have hm := model_of_tagged (n := .indexConstraint) rfl rfl h
    exact texts_of_checker (Instance.field_of_checker
      (f := .required "fields" "fields" (.list 1 .someText)) (Ir.names_nodup _) hm
      (by simp [Ir.schema, Ir.indexConstraint]) rfl)

/-- Seeds have generators for no other fields than the intent says. -/
theorem mem_generators {s : Intent.Seed} {p : Ir.Part}
    (h : (seedValue s).checker Ir.schema l (.model .seed) = .ok p) :
    ∀ g ∈ (p.get "generator_by_field").entries, g.1 ∈ s.generators.map (·.1) := by
  have hgenerators := Instance.field_of_maybe "generator_by_field" "generatorByField"
    (.table Ir.seedGenerator) (Ir.names_nodup _) h (by simp [Ir.schema, Ir.seed]) (by simp)
  intro g hg
  rcases hgenerators with ⟨v, hv, hc⟩ | ⟨-, hfield⟩
  · have hv : v = .obj s.generators := by
      have hentries : (if s.generators.isEmpty then none else some (.obj s.generators)) =
        some v := by
        simpa using hv
      exact (Option.some.inj (Option.ite_none_left_eq_some.mp hentries).2).symm
    rw [hv, checker_optional (by simp), checker_obj_table] at hc
    obtain ⟨is, hi, -⟩ := checkTable_eq_ok.mp hc
    rw [show p.get "generator_by_field" = _ from hi] at hg
    have hkey := (List.of_mem_zip hg).1
    have texts : ∀ t, Shape.keyText (.str t) = t := fun _ => rfl
    simpa [textKeyed, texts] using hkey
  · rw [show p.get "generator_by_field" = .plain .null from hfield] at hg
    simp [Instance.entries] at hg

end Resolved

namespace Draft

open Resolved

variable {l : Nat} {c : Context} {i : Intent.AddEntity} {table : String}
  {fields : List Resolved.Field} {constraints : List Constraint} {e : Ir.Part}

theorem fields_entity
    (h : (entity c i table fields constraints).checker Ir.schema l (.model .entity) = .ok e) :
    List.Forall₂ Resolved.Field.IsReadAs fields e.fields := by
  have hc := Instance.field_of_checker (f := .required "fields" "fields" (.list 1 (.model .field)))
    (Ir.names_nodup _) h (by simp [Ir.schema, Ir.entity]) rfl
  exact (forall₂_items hc).imp fun r f hf => isReadAs_of_checker hf

theorem storage_entity
    (h : (entity c i table fields constraints).checker Ir.schema l (.model .entity) = .ok e) :
    (storage i table ((fields.filter (·.primary)).map (·.name))).checker Ir.schema l
      (.model .storage) = .ok (e.get "storage") :=
  Instance.field_of_checker (f := .required "storage" "storage" (.model Ir.Name.storage))
    (Ir.names_nodup _) h (by simp [Ir.schema, Ir.entity]) rfl

theorem key_entity
    (h : (entity c i table fields constraints).checker Ir.schema l (.model .entity) = .ok e)
    (hk : (fields.filter (·.primary)).map (·.name) ≠ []) :
    ((e.get "storage").get "primary_key").IsKeyOf ((fields.filter (·.primary)).map (·.name)) :=
  isKeyOf_of_checker hk (Instance.field_of_checker
    (f := .required "primary_key" "primaryKey" Ir.primaryKey) (Ir.names_nodup _) (storage_entity h)
    (by simp [Ir.schema, Ir.storage]) rfl)

/-- The column of a tenant is the one that the intent says. -/
theorem tenant_entity {column : String}
    (h : (entity c i table fields constraints).checker Ir.schema l (.model .entity) = .ok e)
    (hcolumn : (((e.get "storage").get "tenant_scoping").get "column").text? = some column) :
    i.tenantColumn = some column := by
  have htenant := Instance.field_of_maybe "tenant_scoping" "tenantScoping" (.model .tenantScope)
    (Ir.names_nodup _) (storage_entity h) (by simp [Ir.schema, Ir.storage]) (by simp)
  rcases htenant with ⟨v, hv, hc⟩ | ⟨-, hfield⟩
  · obtain ⟨t, ht, rfl⟩ : ∃ t, i.tenantColumn = some t ∧
        (.obj [("mode", .str "Column"), ("column", .str t)] : Value) = v := by simpa using hv
    rw [checker_optional (by simp)] at hc
    have hfield := Instance.field_of_checker (f := .required "column" "column" .someText)
      (Ir.names_nodup _) hc (by simp [Ir.schema, Ir.tenantScope]) rfl
    rw [Field.required, checker_text] at hfield
    obtain ⟨_, ha, -, hi⟩ := readWith_eq_ok.mp hfield
    obtain rfl := Except.ok.inj ha
    rw [show ((e.get "storage").get "tenant_scoping").get "column" = _ from hi] at hcolumn
    rw [ht, ← hcolumn]
    rfl
  · rw [Ir.Part.get, show (e.get "storage").get "tenant_scoping" =
      .plain .null from hfield] at hcolumn
    simp [Instance.field, Instance.text?] at hcolumn

/-- The constraints of an entity are read one for one; without any, none are written. -/
theorem forall₂_constraints_entity
    (h : (entity c i table fields constraints).checker Ir.schema l (.model .entity) = .ok e) :
    List.Forall₂ (fun k p => k.toValue.checker Ir.schema l Ir.constraint = .ok p) constraints
      (e.get "constraints").items := by
  have hconstraints := Instance.field_of_maybe "constraints" "constraints"
    (.list 0 Ir.constraint) (Ir.names_nodup _) h (by simp [Ir.schema, Ir.entity]) (by simp)
  rcases hconstraints with ⟨v, hv, hc⟩ | ⟨hnone, hfield⟩
  · have hv : v = .list (constraints.map Constraint.toValue) := by
      have hlist : Value.someList (constraints.map Constraint.toValue) = some v := by simpa using hv
      rw [Value.someList] at hlist
      exact (Option.some.inj (Option.ite_none_left_eq_some.mp hlist).2).symm
    rw [hv, checker_optional (by simp)] at hc
    exact forall₂_items hc
  · have hnil : constraints = [] := by simpa using hnone
    rw [show e.get "constraints" = .plain .null from hfield, hnil]
    exact .nil

theorem constraints_entity
    (h : (entity c i table fields constraints).checker Ir.schema l (.model .entity) = .ok e) :
    ((e.get "constraints").items).map (Ir.Part.texts · "fields") =
      constraints.map Constraint.fields := by
  symm
  rw [← List.forall₂_eq_eq_eq, List.forall₂_map_left_iff, List.forall₂_map_right_iff]
  exact (forall₂_constraints_entity h).imp fun k p hp => (texts_constraint hp).symm

theorem seed_entity
    (h : (entity c i table fields constraints).checker Ir.schema l (.model .entity) = .ok e) :
    ∀ g ∈ ((e.get "seed").get "generator_by_field").entries,
      ∃ s, i.seed = some s ∧ g.1 ∈ s.generators.map (·.1) := by
  have hseed := Instance.field_of_maybe "seed" "seed" (.model .seed)
    (Ir.names_nodup _) h (by simp [Ir.schema, Ir.entity]) (by simp)
  intro g hg
  rcases hseed with ⟨v, hv, hc⟩ | ⟨-, hfield⟩
  · obtain ⟨s, hs, rfl⟩ : ∃ s, i.seed = some s ∧ seedValue s = v := by simpa using hv
    rw [checker_optional (by simp [seedValue, Value.ofPresent])] at hc
    exact ⟨s, hs, mem_generators hc g hg⟩
  · rw [Ir.Part.get, show e.get "seed" = .plain .null from hfield] at hg
    simp [Instance.field, Instance.entries] at hg

/-- Just the note about the primary key has its code. -/
theorem filter_diagnostics_addEntity : (addEntity c i).diagnostics.filter (·.code == "IR001") =
    primaryNote i.fields (markedFields i) := by
  have hnote : (primaryNote i.fields (markedFields i)).filter (·.code == "IR001") =
      primaryNote i.fields (markedFields i) :=
    List.filter_eq_self.mpr fun d hd => by simpa using coded_primaryNote _ _ d hd
  simp only [diagnostics_addEntity, List.filter_append, hnote,
    (coded_tableOf _).filter_eq_nil "IR001" (by decide),
    (coded_reservedWarning _ _ _).filter_eq_nil "IR001" (by decide),
    (coded_resolveFrom _ _ _ _ _ _).filter_eq_nil "IR001" (by decide),
    (coded_primaryError _).filter_eq_nil "IR001" (by decide),
    (coded_referenceErrors _).filter_eq_nil "IR001" (by decide),
    (coded_constraints _ _ _).filter_eq_nil "IR001" (by decide),
    resolveFields, List.nil_append, List.append_nil]

end Draft

namespace Resolved

open Ir.Part (fieldName isPrimaryField strategy)

variable {rs : List Field} {fs : List Ir.Part}

theorem names_of_read (h : List.Forall₂ Field.IsReadAs rs fs) :
    fs.map fieldName = rs.map (·.name) := by
  induction h with
  | nil => rfl
  | cons hr _ ih => rw [List.map_cons, List.map_cons, hr.name, ih]

theorem primaryNames_of_read (h : List.Forall₂ Field.IsReadAs rs fs) :
    (fs.filter isPrimaryField).map fieldName = (rs.filter (·.primary)).map (·.name) := by
  induction h with
  | nil => rfl
  | cons hr _ ih =>
    rw [List.filter_cons, List.filter_cons, hr.primary]
    split
    · rw [List.map_cons, List.map_cons, hr.name, ih]
    · exact ih

theorem findIdx_of_read (h : List.Forall₂ Field.IsReadAs rs fs) :
    fs.findIdx isPrimaryField = rs.findIdx (·.primary) := by
  induction h with
  | nil => rfl
  | cons hr _ ih => rw [List.findIdx_cons, List.findIdx_cons, hr.primary, ih]

/-- The primary fields of an envelope fit a key as they did before. -/
theorem fits_of_read (h : List.Forall₂ Field.IsReadAs rs fs)
    (hfits : ∀ r ∈ rs, r.primary = true → r.FitsKey) {f : Ir.Part} (hf : f ∈ fs)
    (hp : isPrimaryField f = true) :
    (f.get "nullable").flag? = some false ∧
      ((f.get "default").isNull = true ∨ strategy f ∉ ["AutoIncrement", "UUID"]) := by
  obtain ⟨r, hr, hread⟩ := exists_left_of_forall₂ h hf
  obtain ⟨hsolid, hfilled⟩ := hfits r hr (hread.primary ▸ hp)
  refine ⟨hsolid ▸ hread.nullable, ?_⟩
  rw [hread.default, hread.strategy]
  rcases hfilled with hnone | ⟨hcounting, huuid⟩
  · exact .inl (by rw [hnone]; rfl)
  · refine .inr ?_
    cases hg : r.generated with
    | none => decide
    | some s =>
      cases s with
      | autoIncrement => exact absurd hg hcounting
      | uuid => exact absurd hg huuid
      | timestamp => decide

end Resolved

namespace Resolution

open Resolved

/-- A new entity in its envelope has the fields that the intent says, and all that refers to fields
keeps to them. -/
theorem isEntityOf_of_ofKind {c : Context} {now : DateTime} {s : Intent.Submission} {ir : Ir.Part}
    (h : (Resolution.ofKind .addEntity c now s).result = .ok ir) :
    ∃ p, s.read .addEntity = .ok p ∧ ir.IsEntityOf (.ofPart p) := by
  obtain ⟨p, d, hp, hd, -, hs⟩ := ofKind_eq_ok h
  obtain rfl := Except.ok.inj hd
  refine ⟨p, hp, ?_⟩
  generalize Intent.AddEntity.ofPart p = i at hs
  obtain ⟨herr, hpayload⟩ := Draft.settle_eq_ok hs
  have hentity : (Draft.entity c i (Draft.tableOf c i).2 (markedFields i)
      (constraints c.options.autoIndex i (markedFields i)).2).checker Ir.schema levelLimit
        (.model .entity) = .ok (ir.get "entity") :=
    Instance.field_of_checker (f := .required "entity" "entity" (.model Ir.Name.entity))
      (Ir.names_nodup _) hpayload (by simp [Draft.addEntity, Ir.schema, Ir.addEntity]) rfl
  have hdiagnostics := Draft.diagnostics_of_settle (k := .addEntity) rfl
    (by simp [Draft.addEntity]; decide) hs
  simp only [Draft.diagnostics_addEntity, List.any_append, Bool.or_eq_false_iff] at herr
  obtain ⟨⟨⟨⟨⟨-, hfields⟩, -⟩, hkey⟩, hreferences⟩, -⟩ := herr
  obtain ⟨hnames, hnodup, hfits⟩ := markedFields_of_any hfields
  have hkeys : ((markedFields i).filter (·.primary)).map (·.name) ≠ [] := by
    intro hnone
    simp [hnone, primaryError, Diagnostic.isError] at hkey
  have hread := Draft.fields_entity hentity
  have hsame : Ir.Part.fieldNames (ir.get "entity") = i.fields.map (·.name) :=
    (names_of_read hread).trans hnames
  have hprimary : Ir.Part.primaryNames (ir.get "entity") =
      ((markedFields i).filter (·.primary)).map (·.name) := primaryNames_of_read hread
  obtain ⟨-, -, htenant, hseed⟩ := referenceErrors_any hreferences
  exact {
    names_eq := hsame
    names_nodup := hsame ▸ hnodup
    key_primary := hprimary ▸ Draft.key_entity hentity hkeys
    primary_solid := fun f hf hp => (fits_of_read hread hfits hf hp).1
    primary_filled_once := fun f hf hp => (fits_of_read hread hfits hf hp).2
    constraints_mem := by
      intro k hk n hn
      have hmem := List.mem_map_of_mem (f := (Ir.Part.texts · "fields")) hk
      rw [Draft.constraints_entity hentity] at hmem
      obtain ⟨constraint, hconstraint, heq⟩ := List.mem_map.mp hmem
      rw [hsame]
      refine mem_constraints hreferences (fun r hr => ?_) hconstraint n (heq ▸ hn)
      exact hnames ▸ List.mem_map_of_mem hr
    tenant_mem := fun column hcolumn => hsame ▸ htenant column (Draft.tenant_entity hentity hcolumn)
    seed_mem := by
      intro g hg
      obtain ⟨s, hs, hmem⟩ := Draft.seed_entity hentity g hg
      obtain ⟨e, he, heq⟩ := List.mem_map.mp hmem
      exact hsame ▸ heq ▸ hseed s hs e he
    primary_noted := by
      rw [hdiagnostics, Draft.filter_diagnostics_addEntity,
        primaryNote_eq hnodup hnames hkeys, hprimary, Ir.Part.firstPrimary, findIdx_of_read hread] }

/-- An entity whose second and third field are its key together, and all of whose parts refer to
fields. -/
def twoKeyed : Value := .obj [
  ("kind", .str "add_entity"), ("scope", .str "data"), ("entity", .str "Order"),
  ("fields", .list [
    .obj [("name", .str "label"), ("type", .str "string")],
    .obj [("name", .str "tenant"), ("type", .str "uuid"),
      ("attributes", .list [.obj [("name", .str "primary")]])],
    .obj [("name", .str "id"), ("type", .str "integer"), ("default", .int 1)]]),
  ("unique", .list [.texts ["tenant", "label"]]),
  ("indexes", .list [.obj [("fields", .texts ["label"])]]),
  ("tenant_column", .str "tenant"),
  ("seed", .obj [("generators", .obj [
    ("label", .obj [("kind", .str "Faker"), ("path", .str "word")])])])]

theorem isEntityOf_of_ofKind_twoKeyed :
    let c : Context := ⟨"intent", "project", "0.1.0", none, none, ⟨true, .snake⟩⟩
    let now : DateTime := ⟨⟨2024, 1, 2⟩, 12, 0, 0, 0, none⟩
    ∃ ir p, (ofKind .addEntity c now (.plain twoKeyed)).result = .ok ir ∧
      Intent.parse .addEntity twoKeyed = .ok p ∧
      (ir.get "entity").primaryNames = ["tenant", "id"] ∧ ir.IsEntityOf (.ofPart p) := by
  intro c now
  have accepted : (ofKind .addEntity c now (.plain twoKeyed)).result.toOption.map
      (fun ir => (ir.get "entity").primaryNames) = some ["tenant", "id"] := by decide +kernel
  obtain ⟨ir, hir, hprimary⟩ := Option.map_eq_some_iff.mp accepted
  have hresolved := eq_ok_of_toOption hir
  obtain ⟨p, hp, hentity⟩ := isEntityOf_of_ofKind hresolved
  exact ⟨ir, p, hresolved, hp, hprimary, hentity⟩

end Resolution

end SchemaIntents
