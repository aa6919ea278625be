import SchemaIntents.Proofs.Draft.Fields
import SchemaIntents.Proofs.Resolution.Misuse

/-! A reference says twice whether it may be empty: its field does, by the attributes of the field,
and so does its type, by those of the relation. A primary key takes back only what its field
says. -/
namespace SchemaIntents

open Intent (AuthoredField Kind)
open Shape

namespace Resolved

/-- The attributes by which something may be empty. -/
def emptyWords : List String :=
  ["nullable", "optional"]

/-- Whether a field may be empty, as it says itself. -/
def mayBeEmpty (f : AuthoredField) : Bool :=
  f.optional || f.has emptyWords

/-- Whether a field with a relation may be empty, as its type says. -/
def mayLeadNowhere (f : AuthoredField) (r : Intent.Relation) : Bool :=
  f.optional || Intent.Attribute.has r.attributes emptyWords

/-- What makes a field and its type say the same: of a key, which is never empty, the type must be
required too; any other is not required, or both have such an attribute, or neither has. -/
def AgreesOnEmpty (isKey : Bool) (f : AuthoredField) (r : Intent.Relation) : Prop :=
  if isKey then f.required = some true ∧ Intent.Attribute.has r.attributes emptyWords = false
  else f.required = some true → f.has emptyWords = Intent.Attribute.has r.attributes emptyWords

theorem agreesOnEmpty_iff {isKey : Bool} {f : AuthoredField} {r : Intent.Relation} :
    AgreesOnEmpty isKey f r ↔ (!isKey && mayBeEmpty f) = mayLeadNowhere f r := by
  by_cases hrequired : f.required = some true
  · cases isKey <;> simp [AgreesOnEmpty, mayBeEmpty, mayLeadNowhere,
      AuthoredField.optional, hrequired]
  · have hoptional : f.optional = true := by simpa [AuthoredField.optional] using hrequired
    cases isKey <;> simp [AgreesOnEmpty, mayBeEmpty, mayLeadNowhere, hoptional, hrequired]

/-- The kind of a type in envelopes. -/
def FieldType.word : FieldType → String
  | scalar kind => kind
  | json => "Json"
  | enumeration _ _ => "Enum"
  | array _ => "Array"
  | reference _ => "Reference"

section Types

variable {f : AuthoredField} {owner : String} {t : FieldType}

/-- A word of its own never stands for a reference. -/
theorem word_ne_of_ofWord {word element enumName : Option String}
    {enumValues : Option (List String)}
    (h : FieldType.ofWord word enumValues element enumName = .ok t) : t.word ≠ "Reference" := by
  have kinds : ∀ k ∈ Ir.scalarKinds, k ≠ "Reference" := by decide
  simp only [FieldType.ofWord] at h
  grind [FieldType.word, scalarKind_of_lookup]

/-- Just the fields with a relation have references for their types. -/
theorem typeOf_cases (h : typeOf f owner = .ok t) :
    f.relation = none ∧ t.word ≠ "Reference" ∨
      ∃ r reference, f.relation = some r ∧ t = .reference reference ∧
        reference.nullable = mayLeadNowhere f r := by
  unfold typeOf at h
  split at h
  · rename_i hnone
    exact .inl ⟨hnone, word_ne_of_ofWord h⟩
  · rename_i r hr
    have of_reference : (Reference.ofRelation r f.name f.optional >>= fun reference =>
        .ok (.reference reference)) = .ok t →
          ∃ reference, t = .reference reference ∧ reference.nullable = mayLeadNowhere f r := by
      intro h
      obtain ⟨reference, href, h⟩ := bind_eq_ok h
      obtain rfl := Except.ok.inj h
      exact ⟨reference, rfl, (ofRelation_eq_ok href).2.1⟩
    have hreference : ∃ reference, t = .reference reference ∧
        reference.nullable = mayLeadNowhere f r := by
      split at h
      · obtain ⟨_, -, h⟩ := bind_eq_ok h
        exact of_reference h
      · exact of_reference h
    obtain ⟨reference, ht, hnullable⟩ := hreference
    exact .inr ⟨r, reference, hr, ht, hnullable⟩

end Types

section Fields

variable {authored : List AuthoredField} {f : AuthoredField} {t : FieldType}

@[simp] theorem nullable_asPrimary (f : AuthoredField) (r : Field) :
    (r.asPrimary f).nullable = false := by
  rcases asPrimary_cases f r with h | ⟨-, h⟩ | h <;> rw [h]

/-- Among fields with different names, a field is marked by what its own author says. -/
theorem markPrimary_ofAuthored (hn : (authored.map (·.name)).Nodup) (hf : f ∈ authored) :
    markPrimary authored (Field.ofAuthored f t) =
      if isPrimary f then (Field.ofAuthored f t).asPrimary f else Field.ofAuthored f t := by
  obtain ⟨k, hk⟩ := List.mem_iff_getElem?.mp hf
  have hfound : authoredOf? authored (Field.ofAuthored f t).name = some (f, k) :=
    authoredOf?_eq_some hn hk
  simp only [markPrimary, hfound]

/-- A field is resolved with the type that its author says, and may be empty as its author says
unless it is a key. -/
def IsResolvedTo (isKey : AuthoredField → Bool) (owner : String) (f : AuthoredField) (r : Field) :
    Prop :=
  typeOf f owner = .ok r.type ∧ r.nullable = (!isKey f && mayBeEmpty f)

/-- Being marked as a key changes whether a field may be empty, and nothing about its type. -/
theorem isResolvedTo_markedFields {i : Intent.AddEntity}
    (h :
      (resolveFields ⟨true, true⟩ i.entity "$.fields" i.fields).1.any Diagnostic.isError = false) :
    List.Forall₂ (IsResolvedTo isPrimary i.entity) i.fields (markedFields i) := by
  have hn := (distinct_resolveFrom rfl h).1
  have hresolved := (List.forall₂_and_left _ _).mpr
    ⟨fun f (hf : f ∈ i.fields) => hf, forall₂_resolveFrom h⟩
  rw [markedFields, List.forall₂_map_right_iff]
  refine hresolved.imp ?_
  rintro f r ⟨hf, t, ht, rfl⟩
  rw [IsResolvedTo, markPrimary_ofAuthored hn hf]
  by_cases hkey : isPrimary f = true
  · simp [hkey, ht, Field.ofAuthored]
  · simp only [hkey, if_false, Bool.false_eq_true]
    exact ⟨ht, by simp [Field.ofAuthored, mayBeEmpty, emptyWords]⟩

end Fields

section Parts

variable {l : Nat}

theorem kind_of_tagged {es : List (String × Value)} {word : String} {i : Ir.Part}
    (hword : Value.find? "kind" es = some (.str word))
    (h : (Value.obj es).checker Ir.schema l Ir.fieldType = .ok i) : i.kind = word := by
  obtain ⟨t, n, ht, hc, hm⟩ := checker_tagged h
  obtain rfl : t = word := by simpa [Value.lookup?, hword] using ht.symm
  have hmem := List.mem_of_find?_eq_some hc
  simp only [List.mem_append, List.mem_map, List.mem_cons, List.not_mem_nil, or_false,
    Prod.mk.injEq] at hmem
  rcases hmem with ⟨_, -, -, rfl⟩ | ⟨rfl, rfl⟩ | ⟨rfl, rfl⟩ | ⟨rfl, rfl⟩ | ⟨rfl, rfl⟩
  · have hkind := Instance.field_of_checker (f := .required "kind" "kind" (.oneOf Ir.scalarKinds))
      (Ir.names_nodup _) hm (by simp [Ir.schema, Ir.scalarType]) hword
    obtain ⟨_, -, -, hfield⟩ := checker_oneOf_eq_ok.mp hkind
    rw [Ir.Part.kind, show i.get "kind" = _ from hfield]
    rfl
  · exact Draft.kind_of_payload hm (by simp [Ir.schema, Ir.jsonType]) hword
  · exact Draft.kind_of_payload hm (by simp [Ir.schema, Ir.enumType]) hword
  · exact Draft.kind_of_payload hm (by simp [Ir.schema, Ir.arrayType]) hword
  · exact Draft.kind_of_payload hm (by simp [Ir.schema, Ir.referenceType]) hword

/-- The type of a field in an envelope has the kind that was written. -/
theorem kind_of_fieldType {t : FieldType} {i : Ir.Part}
    (h : t.toValue.checker Ir.schema l Ir.fieldType = .ok i) : i.kind = t.word := by
  cases t with
  | scalar | json | enumeration | array | reference => exact kind_of_tagged rfl h

variable {r : Field} {q : Ir.Part}

theorem nullable_of_checker (h : r.toValue.checker Ir.schema l (.model .field) = .ok q) :
    q.get "nullable" = .plain (.bool r.nullable) := by
  have hc := Instance.field_of_checker (f := .required "nullable" "nullable" .flag)
    (Ir.names_nodup _) h (by simp [Ir.schema, Ir.field]) (v := .bool r.nullable) (by simp)
  exact (Except.ok.inj hc).symm

theorem type_of_checker (h : r.toValue.checker Ir.schema l (.model .field) = .ok q) :
    r.type.toValue.checker Ir.schema (l - 1) Ir.fieldType = .ok (q.get "type") :=
  Instance.field_of_checker (f := .deeper (.required "type" "type" Ir.fieldType))
    (Ir.names_nodup _) h (by simp [Ir.schema, Ir.field]) (by simp [Field.deeper, Field.required])

theorem nullable_of_reference {reference : Reference} {i : Ir.Part}
    (h : reference.toValue.checker Ir.schema l Ir.fieldType = .ok i) :
    i.get "nullable" = .plain (.bool reference.nullable) := by
  have hm := model_of_tagged (n := .referenceType) rfl rfl h
  have hc := Instance.field_of_checker (f := .required "nullable" "nullable" .flag)
    (Ir.names_nodup _) hm (by simp [Ir.schema, Ir.referenceType]) (v := .bool reference.nullable)
    (by simp)
  exact (Except.ok.inj hc).symm

/-- A field of an envelope is a reference if its author gave it a relation, and then its two words
on being empty are the same just when its author's agree. -/
def IsReadFrom (isKey : Bool) (f : AuthoredField) (q : Ir.Part) : Prop :=
  ((q.get "type").kind = "Reference" ↔ ∃ r, f.relation = some r) ∧
    ∀ r, f.relation = some r →
      (q.get "nullable" = (q.get "type").get "nullable" ↔ AgreesOnEmpty isKey f r)

theorem isReadFrom_of_checker {isKey : AuthoredField → Bool} {owner : String} {f : AuthoredField}
    (hr :
      IsResolvedTo isKey owner f r) (h : r.toValue.checker Ir.schema l (.model .field) = .ok q) :
    IsReadFrom (isKey f) f q := by
  obtain ⟨htype, hnullable⟩ := hr
  have hkind := kind_of_fieldType (type_of_checker h)
  rcases typeOf_cases htype with ⟨hnone, hword⟩ | ⟨rel, reference, hrel, hreference, hempty⟩
  · simp [IsReadFrom, hnone, hkind, hword]
  · have hinner := type_of_checker h
    rw [hreference] at hinner
    refine ⟨by simp [hkind, hreference, FieldType.word, hrel], fun rel' hrel' => ?_⟩
    obtain rfl := Option.some.inj (hrel.symm.trans hrel')
    rw [nullable_of_checker h, nullable_of_reference hinner, agreesOnEmpty_iff, hnullable, hempty]
    simp

/-- Fields that are resolved in place and read in place are read as their authors say. -/
theorem forall₂_isReadFrom {isKey : AuthoredField → Bool} {owner : String} {fs : List AuthoredField}
    {rs : List Field} {qs : List Ir.Part} (hr : List.Forall₂ (IsResolvedTo isKey owner) fs rs)
    (h : List.Forall₂ (fun r q => r.toValue.checker Ir.schema l (.model .field) = .ok q) rs qs) :
    List.Forall₂ (fun f q => IsReadFrom (isKey f) f q) fs qs := by
  induction hr generalizing qs with
  | nil =>
    cases h
    exact .nil
  | cons hfirst _ ih =>
    cases h with
    | cons hq hrest => exact .cons (isReadFrom_of_checker hfirst hq) (ih hrest)

/-- A field that does not become a key is read as its author says. -/
theorem isReadFrom_of_isWrittenAs {owner : String} {f : AuthoredField} (h : IsWrittenAs owner f q) :
    IsReadFrom false f q := by
  obtain ⟨t, ht, l, hq⟩ := h
  have hr : IsResolvedTo (fun _ => false) owner f (Field.ofAuthored f t) := ⟨ht, rfl⟩
  exact isReadFrom_of_checker hr hq

end Parts

end Resolved

/-- The fields that the envelope of a kind of intents holds, those of a response before those of a
request. -/
def Ir.Part.resolvedFields (k : Kind) (ir : Part) : List Part :=
  match k with
  | .addEntity => fields (ir.get "entity")
  | .addField => fields ir
  | .addEndpoint =>
    ((ir.get "endpoint").get "response_fields").items ++
      ((ir.get "endpoint").get "request_fields").items
  | _ => []

namespace Draft

open Resolved

/-- The fields that an intent of a kind has resolved. -/
def authoredFields (k : Kind) (p : Intent.Part) : List AuthoredField :=
  (fieldLists k p).flatMap fun l => l.2.2

/-- Whether a field becomes a key: only new entities have any. -/
def isKeyOf (k : Kind) (f : AuthoredField) : Bool :=
  k = .addEntity && isPrimary f

variable {c : Context} {now : DateTime} {p : Intent.Part} {ir : Ir.Part}

theorem isReadFrom_addEntity (h : (addEntity c (.ofPart p)).settle c now = .ok ir) :
    List.Forall₂ (fun f q => IsReadFrom (isKeyOf .addEntity f) f q) (authoredFields .addEntity p)
      (ir.resolvedFields .addEntity) := by
  obtain ⟨hfields, -, -⟩ := of_any_addEntity (settle_eq_ok h).1
  have hentity := checker_of_settle (k := .addEntity) rfl rfl rfl h
  have hlist := Instance.field_of_checker (f := .required "fields" "fields"
    (.list 1 (.model .field))) (Ir.names_nodup _) hentity (by simp [Ir.schema, Ir.entity]) rfl
  have hauthored : authoredFields .addEntity p = (Intent.AddEntity.ofPart p).fields :=
    List.append_nil _
  rw [hauthored]
  exact forall₂_isReadFrom (isResolvedTo_markedFields hfields) (forall₂_items hlist)

theorem isReadFrom_addField (h : (addField c (.ofPart p)).settle c now = .ok ir) :
    List.Forall₂ (fun f q => IsReadFrom (isKeyOf .addField f) f q) (authoredFields .addField p)
      (ir.resolvedFields .addField) := by
  have hauthored : authoredFields .addField p = (Intent.AddField.ofPart p).fields :=
    List.append_nil _
  rw [hauthored]
  exact (isWrittenAs_addField h).imp fun _ _ => isReadFrom_of_isWrittenAs

theorem isReadFrom_addEndpoint (h : (addEndpoint c (.ofPart p)).settle c now = .ok ir) :
    List.Forall₂ (fun f q => IsReadFrom (isKeyOf .addEndpoint f) f q)
      (authoredFields .addEndpoint p) (ir.resolvedFields .addEndpoint) := by
  have hauthored : authoredFields .addEndpoint p =
      (Intent.AddEndpoint.ofPart p).fields ++ (Intent.AddEndpoint.ofPart p).requestFields := by
    simp [authoredFields, fieldLists]
  obtain ⟨hresponse, hrequest⟩ := isWrittenAs_addEndpoint h
  rw [hauthored]
  exact List.rel_append (hresponse.imp fun _ _ => isReadFrom_of_isWrittenAs)
    (hrequest.imp fun _ _ => isReadFrom_of_isWrittenAs)

end Draft

namespace Resolution

open Resolved

variable {c : Context} {now : DateTime} {k : Kind} {s : Intent.Submission} {ir : Ir.Part}

/-- The fields that an intent has resolved stand in its envelope one for one. Those that are
references are just those with a relation, and such a field and its type say the same about being
empty just when the attributes and the key do not set them apart: of a key, which is never empty
itself, the type must be required and without an attribute that lets it be empty; of any other,
unless it may be left out anyway, the field and the relation must both have such an attribute or
neither. -/
theorem nullable_eq_iff (hk : k ∈ [Kind.addEntity, .addField, .addEndpoint])
    (h : (ofKind k c now s).result = .ok ir) :
    ∃ p, s.read k.model = .ok p ∧
      List.Forall₂ (fun f q => ((q.get "type").kind = "Reference" ↔ ∃ r, f.relation = some r) ∧
        ∀ r, f.relation = some r → (q.get "nullable" = (q.get "type").get "nullable" ↔
          AgreesOnEmpty (Draft.isKeyOf k f) f r))
        (Draft.authoredFields k p) (ir.resolvedFields k) := by
  obtain ⟨p, d, hp, hd, -, hs⟩ := ofKind_eq_ok h
  refine ⟨p, hp, ?_⟩
  simp only [List.mem_cons, List.not_mem_nil, or_false] at hk
  rcases hk with rfl | rfl | rfl
  · obtain rfl := Except.ok.inj hd
    exact Draft.isReadFrom_addEntity hs
  · obtain rfl := Except.ok.inj hd
    exact Draft.isReadFrom_addField hs
  · obtain rfl := Except.ok.inj hd
    exact Draft.isReadFrom_addEndpoint hs

/-- An entity whose key is a reference, with two more references: one that may be left out, and one
that is required but has an attribute by which it may be empty. -/
def doubtful : Value :=
  let relation : Value := .obj [("target_entity", .str "User"), ("kind", .str "many_to_one"),
    ("foreign_key", .obj [("local_field", .str "id"), ("target_field", .str "id")])]
  .obj [("kind", .str "add_entity"), ("scope", .str "data"), ("entity", .str "Profile"),
    ("fields", .list [
      .obj [("name", .str "id"), ("type", .str "reference"), ("relation", relation)],
      .obj [("name", .str "editor"), ("type", .str "reference"), ("relation", relation)],
      .obj [("name", .str "author"), ("type", .str "reference"), ("relation", relation),
        ("required", .bool true), ("attributes", .list [.obj [("name", .str "nullable")]])]])]

/-- Only the second of the three references says the same twice. -/
theorem nullable_eq_iff_doubtful :
    let c : Context := ⟨"intent", "project", "0.1.0", none, none, ⟨true, .snake⟩⟩
    let now : DateTime := ⟨⟨2024, 1, 2⟩, 12, 0, 0, 0, none⟩
    ∃ ir key editor author, (ofKind .addEntity c now (.plain doubtful)).result = .ok ir ∧
      (ir.resolvedFields .addEntity) = [key, editor, author] ∧
      key.get "nullable" ≠ (key.get "type").get "nullable" ∧
      editor.get "nullable" = (editor.get "type").get "nullable" ∧
      author.get "nullable" ≠ (author.get "type").get "nullable" := by
  intro c now
  have accepted : (ofKind .addEntity c now (.plain doubtful)).result.toOption.map (fun _ => ()) =
      some () := by decide +kernel
  have authored : (Intent.parse .addEntity doubtful).toOption.map (fun p =>
      (Draft.authoredFields .addEntity p).map fun f => (isPrimary f, f.required, f.has emptyWords,
        f.relation.map fun r => Intent.Attribute.has r.attributes emptyWords)) =
      some [(true, none, false, some false), (false, none, false, some false),
        (false, some true, true, some false)] := by decide +kernel
  obtain ⟨ir, hir, -⟩ := Option.map_eq_some_iff.mp accepted
  have hresolved := eq_ok_of_toOption hir
  obtain ⟨p, hp, hfields⟩ := nullable_eq_iff (k := .addEntity) (by decide) hresolved
  rw [show Intent.parse .addEntity doubtful = .ok p from hp] at authored
  simp only [Except.toOption, Option.map_some, Option.some.injEq, List.map_eq_cons_iff,
    List.map_eq_nil_iff, Prod.mk.injEq, Option.map_eq_some_iff] at authored
  obtain ⟨f, _, hauthored, ⟨hkey, hf, -, r, hr, hno⟩, g, _, rfl,
    ⟨hg, hfree, -, r', hr', -⟩, e, _, rfl, ⟨he, hgiven, hword, r'', hr'', hno'⟩, rfl⟩ := authored
  rw [hauthored] at hfields
  obtain ⟨key, _, hfirst, hrest, hkeys⟩ := List.forall₂_cons_left_iff.mp hfields
  obtain ⟨editor, _, hsecond, hlast, rfl⟩ := List.forall₂_cons_left_iff.mp hrest
  obtain ⟨author, _, hthird, hnone, rfl⟩ := List.forall₂_cons_left_iff.mp hlast
  obtain rfl := List.forall₂_nil_left_iff.mp hnone
  refine ⟨ir, key, editor, author, hresolved, hkeys, ?_, ?_, ?_⟩
  · rw [Ne, hfirst.2 r hr]
    simp [AgreesOnEmpty, Draft.isKeyOf, hkey, hf]
  · rw [hsecond.2 r' hr']
    simp [AgreesOnEmpty, Draft.isKeyOf, hg, hfree]
  · rw [Ne, hthird.2 r'' hr'']
    simp [AgreesOnEmpty, Draft.isKeyOf, he, hgiven, hword, hno']

end Resolution
end SchemaIntents
