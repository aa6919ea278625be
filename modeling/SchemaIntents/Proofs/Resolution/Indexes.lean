import SchemaIntents.Proofs.Draft.Moments
import SchemaIntents.Proofs.Draft.Unfit
import SchemaIntents.Proofs.Resolved.Indexes
import SchemaIntents.Proofs.Resolution.Nullability

/-! New entities with and without indexes that are added of their own accord. With them each
reference has an index of its own, each index that is added is noted, and nothing else is
different. -/
namespace SchemaIntents

open Resolved Shape

namespace Ir.Part

/-- The constraints of the entity in an envelope. -/
def constraints (ir : Part) : List Constraint :=
  ((ir.get "entity").get "constraints").items.map Constraint.ofPart

/-- The names of the fields of the entity in an envelope that are references. -/
def references (ir : Part) : List String :=
  ((fields (ir.get "entity")).filter fun f => (f.get "type").kind == "Reference").map fieldName

/-- The envelopes that one intent comes to, without and with indexes for the references. -/
structure IsIndexedAs (off on : Part) (i : Intent.AddEntity) : Prop where
  declared : off.constraints = declaredConstraints i ++
    (bareOf (declaredConstraints i) ((i.fields.filter (·.has ["indexed"])).map (·.name))).map
      Constraint.plainIndex
  added : on.constraints = off.constraints ++
    (bareOf off.constraints off.references).map Constraint.plainIndex
  noted : on.diagnostics = off.diagnostics ++ (bareOf off.constraints off.references).map indexNote
  unnoted : ∀ d ∈ off.diagnostics, d.code ≠ "IR003"
  others_same : ∀ name ∉ ["provenance", "entity", "diagnostics"], on.get name = off.get name
  provenance_same : ∀ name ≠ "generated_at",
    (on.get "provenance").get name = (off.get "provenance").get name
  entity_same : ∀ name ≠ "constraints", (on.get "entity").get name = (off.get "entity").get name
  covered : ∀ name ∈ on.references, on.constraints.any (Constraint.indexes name) = true
  no_twins : (∀ name, i.indexes.countP (fun x => x.fields = [name]) ≤ 1) →
    HasNoTwins off.constraints ∧ HasNoTwins on.constraints

end Ir.Part

/-- A context in which indexes for references are added, or are not. -/
def Context.withAutoIndex (c : Context) (auto : Bool) : Context :=
  { c with options := { c.options with autoIndex := auto } }

namespace Draft

variable {c : Context} {now now' : DateTime} {i : Intent.AddEntity} {ir off on : Ir.Part}

/-- What an entity has in its envelope. -/
structure IsSettled (c : Context) (i : Intent.AddEntity) (ir : Ir.Part) : Prop where
  clean : (addEntity c i).diagnostics.any Diagnostic.isError = false
  diagnostics : ir.diagnostics = (addEntity c i).diagnostics
  entity : (entity c i (tableOf c i).2 (markedFields i)
    (constraints c.options.autoIndex i (markedFields i)).2).checker Ir.schema levelLimit
      (.model .entity) = .ok (ir.get "entity")

theorem isSettled_of_settle (h : (addEntity c i).settle c now = .ok ir) : IsSettled c i ir := by
  exact ⟨(settle_eq_ok h).1, diagnostics_of_settle (k := .addEntity) rfl
    (by simp [addEntity]; decide) h, checker_of_settle (k := .addEntity) rfl rfl rfl h⟩

theorem constraints_of_isSettled (h : IsSettled c i ir) :
    ir.constraints = (constraints c.options.autoIndex i (markedFields i)).2 := by
  symm
  rw [Ir.Part.constraints, ← List.forall₂_eq_eq_eq, List.forall₂_map_right_iff]
  exact (forall₂_constraints_entity h.entity).imp fun k q hq => (ofPart_of_checker hq).symm

theorem isReference_of_typeOf {f : Intent.AuthoredField} {owner : String} {t : FieldType}
    (h : typeOf f owner = .ok t) : (t.word == "Reference") = t.isReference := by
  rcases typeOf_cases h with ⟨-, hword⟩ | ⟨_, reference, -, rfl, -⟩
  · cases t <;> simp_all [FieldType.word, FieldType.isReference]
  · rfl

/-- The references of an envelope are those among the fields that were resolved. -/
theorem references_of_checker {l : Nat} {rs : List Resolved.Field} {qs : List Ir.Part}
    (h : List.Forall₂ (fun r q => r.toValue.checker Ir.schema l (.model .field) = .ok q) rs qs)
    (ht : ∀ r ∈ rs, ∃ f owner, typeOf f owner = .ok r.type) :
    (qs.filter fun q => (q.get "type").kind == "Reference").map Ir.Part.fieldName =
      (rs.filter (·.type.isReference)).map (·.name) := by
  induction h with
  | nil => rfl
  | @cons r q rs qs hq _ ih =>
    rw [List.forall_mem_cons] at ht
    obtain ⟨⟨f, owner, htype⟩, hrest⟩ := ht
    have hkind : ((q.get "type").kind == "Reference") = r.type.isReference := by
      rw [kind_of_fieldType (type_of_checker hq), isReference_of_typeOf htype]
    rw [List.filter_cons, List.filter_cons, hkind]
    split
    · rw [List.map_cons, List.map_cons, (isReadAs_of_checker hq).name, ih hrest]
    · exact ih hrest

theorem references_of_isSettled (h : IsSettled c i ir) :
    ir.references = referenceNames (markedFields i) := by
  obtain ⟨hfields, -, -⟩ := of_any_addEntity h.clean
  have hlist := Instance.field_of_checker (f := .required "fields" "fields"
    (.list 1 (.model .field))) (Ir.names_nodup _) h.entity (by simp [Ir.schema, Ir.entity]) rfl
  refine references_of_checker (forall₂_items hlist) fun r hr => ?_
  obtain ⟨f, -, htype, -⟩ := exists_left_of_forall₂ (isResolvedTo_markedFields hfields) hr
  exact ⟨f, i.entity, htype⟩

theorem nodup_references (h : IsSettled c i ir) : ir.references.Nodup := by
  obtain ⟨hfields, -, -⟩ := of_any_addEntity h.clean
  obtain ⟨hnames, hnodup, -⟩ := markedFields_of_any hfields
  rw [references_of_isSettled h]
  exact (hnames ▸ hnodup).sublist (List.filter_sublist.map _)

/-- What is added to an envelope without indexes for references goes by this envelope alone. -/
theorem constraints_true_eq (hoff : IsSettled (c.withAutoIndex false) i off) :
    constraints true i (markedFields i) = ((bareOf off.constraints off.references).map indexNote,
      off.constraints ++ (bareOf off.constraints off.references).map Constraint.plainIndex) := by
  rw [← withNotedIndexes_eq (nodup_references hoff), constraints_of_isSettled hoff,
    references_of_isSettled hoff]
  rfl

section Twice

variable (hoff : IsSettled (c.withAutoIndex false) i off)
  (hon : IsSettled (c.withAutoIndex true) i on)

include hoff hon

omit hon in
/-- Without indexes of their own accord none is noted. -/
theorem code_ne_of_off {d : Diagnostic} (hd : d ∈ off.diagnostics) : d.code ≠ "IR003" := by
  have coded : Coded ["IR001", "IR002", "IR011", "IR020", "IR021", "IR022", "IR023"]
    off.diagnostics := by
    rw [hoff.diagnostics]
    simp only [diagnostics_addEntity, coded_append]
    exact ⟨⟨⟨⟨⟨⟨(coded_reservedWarning _ _ _).mono (by decide), (coded_tableOf _).mono (by decide)⟩,
      (coded_resolveFrom _ _ _ _ _ _).mono (by decide)⟩, (coded_primaryNote _ _).mono (by decide)⟩,
      (coded_primaryError _).mono (by decide)⟩, (coded_referenceErrors _).mono (by decide)⟩,
        coded_nil⟩
  intro hcode
  exact absurd (hcode ▸ coded d hd) (by decide)

theorem constraints_of_both : on.constraints = off.constraints ++
    (bareOf off.constraints off.references).map Constraint.plainIndex := by
  rw [constraints_of_isSettled hon]
  exact congrArg Prod.snd (constraints_true_eq hoff)

theorem diagnostics_of_both : on.diagnostics = off.diagnostics ++
    (bareOf off.constraints off.references).map indexNote := by
  have hnotes : (constraints true i (markedFields i)).1 =
      (bareOf off.constraints off.references).map indexNote :=
    congrArg Prod.fst (constraints_true_eq hoff)
  rw [hon.diagnostics, hoff.diagnostics, ← hnotes, diagnostics_addEntity, diagnostics_addEntity]
  exact congrArg (· ++ _) (List.append_nil _).symm

omit hoff hon in
/-- Entities with different constraints have the same entries but for these. -/
theorem exists_entries_entity (c : Context) (i : Intent.AddEntity) (table : String)
    (fields : List Resolved.Field) (constraints constraints' : List Constraint) :
    ∃ es es', entity c i table fields constraints = .obj es ∧
      entity c i table fields constraints' = .obj es' ∧
      ∀ key ≠ "constraints", Value.find? key es = Value.find? key es' := by
  refine ⟨_, _, rfl, rfl, fun key hkey => ?_⟩
  simp [Ne.symm hkey]

theorem entity_of_both {name : String} (hname : name ≠ "constraints") :
    (on.get "entity").get name = (off.get "entity").get name := by
  obtain ⟨es, es', hes, hes', hsame⟩ := exists_entries_entity c i (tableOf c i).2 (markedFields i)
    (constraints true i (markedFields i)).2 (constraints false i (markedFields i)).2
  refine field_congr (Ir.names_nodup .entity) (hes ▸ hon.entity)
    (hes' ▸ hoff.entity) fun f hf hf' => ?_
  have hwire := (show ∀ f ∈ (Ir.schema .entity).fields, f.name ≠ "constraints" →
    f.wire ≠ "constraints" by decide) f hf (hf' ▸ hname)
  exact ⟨hsame _ hwire, hsame _ (hf' ▸ hname)⟩

end Twice

/-- What an envelope says beside its entity. -/
theorem others_of_both
    (hoff : (addEntity (c.withAutoIndex false) i).settle (c.withAutoIndex false) now = .ok off)
    (hon : (addEntity (c.withAutoIndex true) i).settle (c.withAutoIndex true) now' = .ok on) :
    (∀ name ∉ ["provenance", "entity", "diagnostics"], on.get name = off.get name) ∧
      ∀ name ≠ "generated_at", (on.get "provenance").get name =
        (off.get "provenance").get name := by
  have fits {c : Context} {now : DateTime} {ir : Ir.Part}
      (h : (addEntity c i).settle c now = .ok ir) :
      (Value.obj ((addEntity c i).entries c now)).checker Ir.schema levelLimit (.model .addEntity) =
        .ok ir :=
    (settle_eq_ok h).2
  constructor
  · intro name hname
    have found {c : Context} {now : DateTime} {key : String}
        (hkey : key ∉ ["provenance", "entity", "diagnostics"]) :
        Value.find? key ((addEntity c i).entries c now) =
          Value.find? key [("kind", .str "AddEntity"), ("irVersion", .str "1.0.0")] := by
      simp only [List.mem_cons, List.not_mem_nil, or_false, not_or] at hkey
      simp [entries, addEntity, Value.find?, Ne.symm hkey.1, Ne.symm hkey.2.1, Ne.symm hkey.2.2]
    refine field_congr (Ir.names_nodup .addEntity) (fits hon) (fits hoff) fun f hf hf' => ?_
    have hwire := (show ∀ f ∈ (Ir.schema .addEntity).fields,
      f.name ∉ ["provenance", "entity", "diagnostics"] →
        f.wire ∉ ["provenance", "entity", "diagnostics"] by decide) f hf (hf' ▸ hname)
    exact ⟨(found hwire).trans (found hwire).symm,
      (found (hf' ▸ hname)).trans (found (hf' ▸ hname)).symm⟩
  · intro name hname
    have provenance {c : Context} {now : DateTime} {ir : Ir.Part}
        (h : (addEntity c i).settle c now = .ok ir) :
        (c.provenance now).checker Ir.schema levelLimit (.model .provenance) =
          .ok (ir.get "provenance") :=
      Instance.field_of_checker (f := .required "provenance" "provenance"
        (.model Ir.Name.provenance))
        (Ir.names_nodup _) (fits h) (by simp [Ir.schema, Ir.addEntity]) rfl
    refine field_congr (Ir.names_nodup .provenance) (provenance hon) (provenance hoff)
      fun f hf hf' => ?_
    have hwire := (show ∀ f ∈ (Ir.schema .provenance).fields, f.name ≠ "generated_at" →
      f.wire ≠ "generatedAt" ∧ f.name ≠ "generatedAt" by decide) f hf (hf' ▸ hname)
    exact ⟨c.find?_origin_congr hwire.1 _ _, c.find?_origin_congr hwire.2 _ _⟩

end Draft

namespace Resolution

open Draft

variable {c : Context} {now now' : DateTime} {s : Intent.Submission} {off on : Ir.Part}

/-- Whether references get indexes of their own accord decides about just these: without them an
entity has the constraints that its author asks for, with them it has an index more for each
reference that has none of its own and a note about each, and all else is the same. -/
theorem isIndexedAs_of_ofKind
    (hoff : (ofKind .addEntity (c.withAutoIndex false) now s).result = .ok off)
    (hon : (ofKind .addEntity (c.withAutoIndex true) now' s).result = .ok on) :
    ∃ p, s.read .addEntity = .ok p ∧ off.IsIndexedAs on (.ofPart p) := by
  obtain ⟨p, d, hp, hd, -, hs⟩ := ofKind_eq_ok hoff
  obtain ⟨p', d', hp', hd', -, hs'⟩ := ofKind_eq_ok hon
  obtain rfl := Except.ok.inj (hp.symm.trans hp')
  obtain rfl := Except.ok.inj hd
  obtain rfl := Except.ok.inj hd'
  refine ⟨p, hp, ?_⟩
  generalize Intent.AddEntity.ofPart p = i at hs hs'
  have settled := isSettled_of_settle hs
  have settled' := isSettled_of_settle hs'
  obtain ⟨hfields, -, -⟩ := of_any_addEntity settled.clean
  obtain ⟨-, hnodup, -⟩ := markedFields_of_any hfields
  have declared : off.constraints = declaredConstraints i ++
      (bareOf (declaredConstraints i) ((i.fields.filter (·.has ["indexed"])).map (·.name))).map
        Constraint.plainIndex :=
    (constraints_of_isSettled settled).trans (authoredConstraints_eq hnodup)
  have added := constraints_of_both settled settled'
  have references : on.references = off.references :=
    (references_of_isSettled settled').trans (references_of_isSettled settled).symm
  obtain ⟨others, provenance⟩ := others_of_both hs hs'
  exact {
    declared := declared
    added := added
    noted := diagnostics_of_both settled settled'
    unnoted := fun _ => code_ne_of_off settled
    others_same := others
    provenance_same := provenance
    entity_same := fun name hname => entity_of_both settled settled' hname
    covered := by
      intro name hname
      rw [added]
      exact any_indexes_append_bareOf (references ▸ hname)
    no_twins := by
      intro h
      have first : HasNoTwins off.constraints := by
        rw [declared]
        exact hasNoTwins_append_bareOf (hnodup.sublist (List.filter_sublist.map _))
          (hasNoTwins_declaredConstraints h)
      refine ⟨first, ?_⟩
      rw [added]
      exact hasNoTwins_append_bareOf (nodup_references settled) first }

/-- An entity with two references, of which one asks for an index, and with an index of another
field that asks for one too. -/
def article : Value :=
  let relation : Value := .obj [("target_entity", .str "User"), ("kind", .str "many_to_one"),
    ("foreign_key", .obj [("local_field", .str "id"), ("target_field", .str "id")])]
  let indexed : Value := .list [.obj [("name", .str "indexed")]]
  .obj [("kind", .str "add_entity"), ("scope", .str "data"), ("entity", .str "Article"),
    ("fields", .list [
      .obj [("name", .str "id"), ("type", .str "integer")],
      .obj [("name", .str "title"), ("type", .str "string"), ("attributes", indexed)],
      .obj [("name", .str "author"), ("type", .str "reference"), ("relation", relation)],
      .obj [("name", .str "editor"), ("type", .str "reference"), ("relation", relation),
        ("attributes", indexed)]]),
    ("unique", .list [.texts ["author", "title"]]),
    ("indexes", .list [.obj [("name", .str "by_title"), ("fields", .texts ["title"])]])]

/-- Just the reference that has no index yet gets one. -/
theorem isIndexedAs_article :
    let c : Context := ⟨"intent", "project", "0.1.0", none, none, ⟨true, .snake⟩⟩
    let now : DateTime := ⟨⟨2024, 1, 2⟩, 12, 0, 0, 0, none⟩
    ∃ off on, (ofKind .addEntity (c.withAutoIndex false) now (.plain article)).result = .ok off ∧
      (ofKind .addEntity (c.withAutoIndex true) now (.plain article)).result = .ok on ∧
      off.constraints = [.unique ["author", "title"],
        .index ["title"] (some false) (some "by_title") none, .plainIndex "editor"] ∧
      on.constraints = off.constraints ++ [.plainIndex "author"] ∧
      on.diagnostics = off.diagnostics ++ [indexNote "author"] := by
  intro c now
  have without : (ofKind .addEntity (c.withAutoIndex false) now
      (.plain article)).result.toOption.map (fun ir => (ir.constraints, ir.references)) =
      some ([.unique ["author", "title"], .index ["title"] (some false) (some "by_title") none,
        .plainIndex "editor"], ["author", "editor"]) := by decide +kernel
  have accepted : (ofKind .addEntity (c.withAutoIndex true) now
      (.plain article)).result.toOption.map (fun _ => ()) = some () := by decide +kernel
  obtain ⟨off, hoff, hread⟩ := Option.map_eq_some_iff.mp without
  obtain ⟨on, hon, -⟩ := Option.map_eq_some_iff.mp accepted
  obtain ⟨hconstraints, hreferences⟩ := Prod.mk.inj hread
  obtain ⟨p, -, h⟩ := isIndexedAs_of_ofKind (eq_ok_of_toOption hoff) (eq_ok_of_toOption hon)
  have hbare : bareOf off.constraints off.references = ["author"] := by
    rw [hconstraints, hreferences]
    decide
  refine ⟨off, on, eq_ok_of_toOption hoff, eq_ok_of_toOption hon, hconstraints, ?_, ?_⟩
  · rw [h.added, hbare]
    rfl
  · rw [h.noted, hbare]
    rfl

end Resolution

end SchemaIntents
