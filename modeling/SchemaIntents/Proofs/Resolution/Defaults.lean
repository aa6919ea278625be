import SchemaIntents.Proofs.Draft.Fields
import SchemaIntents.Proofs.Intent.Defaults
import SchemaIntents.Proofs.Json.Tokens
import SchemaIntents.Proofs.Resolution.Isolation
import SchemaIntents.Proofs.Resolution.Sayable

/-! What becomes of the default that an author gives to a new field or to a field of an endpoint.
Scalars stand in the envelope as they were written, but for a few words. Lists and mappings are left
out, and nothing is reported about it. -/
namespace SchemaIntents

open Intent (AuthoredField Kind Submission)
open Shape Value

namespace Intent

/-- The default that an intent gives to the field at a position of a list: what stands there in
plain data, or what the instance of a model has there. -/
inductive GivesDefault (m : Name) (key : String) (n : Nat) (u : Value) : Submission → Prop
  | plain {v : Value} : v.at? (defaultPlace key n) = some u → GivesDefault m key n u (.plain v)
  | checked {p : Part} {f : AuthoredField} : Submission.isOf m p = true →
      (p.fields key)[n]? = some f → f.default = u → GivesDefault m key n u (.checked p)

end Intent

namespace Resolved

/-- The words, in any case and with any space around them, that stand for values that are made
later. -/
def madeWords : List String :=
  ["now", "current_timestamp", "autoincrement", "uuid", "uuidv4", "uuid()"]

/-- The attributes that ask for a value that is made later. -/
def madeAttributes : List String :=
  ["default_now", "auto_increment"]

/-- A default that stands for itself: a truth value, a number, or a text that is no such word. -/
def StandsForItself : Value → Prop
  | .bool _ | .int _ | .float _ => True
  | .str s => Text.normalize s ∉ madeWords
  | _ => False

/-- A default of an envelope is the literal of a value. -/
def IsLiteral (u : Value) (d : Ir.Part) : Prop :=
  d.kind = "Literal" ∧ d.get "value" = .plain u

variable {u : Value} {f : AuthoredField} {owner : String} {q : Ir.Part}

theorem ofValue?_of_standsForItself (h : StandsForItself u) :
    Default.ofValue? u = some (.literal u) := by
  cases u with
  | str s =>
    simp only [StandsForItself, madeWords, List.mem_cons, List.not_mem_nil, or_false, not_or] at h
    simp [Default.ofValue?, h]
  | bool | int | float => rfl
  | _ => exact absurd h id

/-- Just the scalars are defaults. -/
theorem ofValue?_eq_none_iff : Default.ofValue? u = none ↔ isScalar u = false := by
  cases u with
  | str s =>
    simp only [Default.ofValue?, isScalar, Bool.true_eq_false, iff_false]
    split_ifs <;> simp
  | _ => simp [Default.ofValue?, isScalar]

theorem defaultOf_eq_none_iff :
    defaultOf f = none ↔ isScalar f.default = false ∧ f.has madeAttributes = false := by
  have either : f.has madeAttributes = (f.has ["default_now"] || f.has ["auto_increment"]) := by
    rw [Bool.eq_iff_iff]
    simp [AuthoredField.has, Intent.Attribute.has, madeAttributes, and_or_left, exists_or]
  rw [defaultOf, Option.or_eq_none_iff, ofValue?_eq_none_iff, either, Bool.or_eq_false_iff]
  refine and_congr_right fun _ => ?_
  split_ifs <;> simp_all

/-- A field of an envelope has a default just where its author wrote a scalar or asked for a
value. -/
theorem default_ne_null_iff (h : IsWrittenAs owner f q) :
    q.get "default" ≠ .plain .null ↔ isScalar f.default = true ∨ f.has madeAttributes = true := by
  obtain ⟨t, -, l, hq⟩ := h
  have hnull := (isReadAs_of_checker hq).default
  rw [show (Field.ofAuthored f t).default = defaultOf f from rfl] at hnull
  rw [Ne, ← Instance.isNull_iff, hnull, Option.isNone_iff_eq_none, defaultOf_eq_none_iff]
  simp [imp_iff_not_or]

theorem isLiteral_of_checker {l : Nat} {d : Ir.Part}
    (h : (Default.literal u).toValue.checker Ir.schema l Ir.defaultValue = .ok d) :
      IsLiteral u d := by
  have hm := model_of_tagged (n := Ir.Name.literalDefault) rfl rfl h
  refine ⟨Draft.kind_of_payload hm (by simp [Ir.schema, Ir.literalDefault]) rfl, ?_⟩
  have hc := Instance.field_of_checker (f := .required "value" "value" .scalar)
    (Ir.names_nodup _) hm (by simp [Ir.schema, Ir.literalDefault]) rfl
  simp only [Field.required, Value.checker, checkParts] at hc
  split at hc
  · exact (Except.ok.inj hc).symm
  · cases hc

/-- A default that stands for itself is read as the literal of what was written. -/
theorem isLiteral_of_isWrittenAs (h : IsWrittenAs owner f q) (hf : StandsForItself f.default) :
    IsLiteral f.default (q.get "default") := by
  obtain ⟨t, -, l, hq⟩ := h
  have hdefault : (Field.ofAuthored f t).default = some (.literal f.default) := by
    simp [Field.ofAuthored, defaultOf, ofValue?_of_standsForItself hf]
  rcases default_of_checker hq with ⟨d, k, hd, hc⟩ | ⟨hnone, -⟩
  · obtain rfl := Option.some.inj (hdefault.symm.trans hd)
    exact isLiteral_of_checker hc
  · rw [hdefault] at hnone
    cases hnone

end Resolved

/-- A diagnostic points into the value at a place. -/
def Diagnostic.IsInside (place : String) (d : Diagnostic) : Prop :=
  ∃ rest, d.path = place ++ rest

section Reports

variable {c : Context} {now : DateTime} {k : Kind} {key owner root : String} {n : Nat}
  {f : AuthoredField} {fs : List AuthoredField} {p : Intent.Part} {d : Draft} {ir : Ir.Part}

/-- Of two places in one list, one is inside the other only if they are the same. -/
theorem position_inj {m n : Nat} {rest rest' : String}
    (h : root ++ s!"[{m}]" ++ rest = root ++ s!"[{n}]" ++ rest') : m = n := by
  have digits (n : Nat) (tail : List Char) :
      ((toString (n : Int)).toList ++ ']' :: tail).takeWhile (· != ']') =
        (toString (n : Int)).toList := by
    rw [List.takeWhile_append_of_pos]
    · simp
    · intro ch hch
      rcases Json.mem_toString hch with hdigit | rfl
      · refine bne_iff_ne.mpr ?_
        rintro rfl
        exact absurd hdigit (by decide)
      · decide
  have hchars := congrArg String.toList h
  simp only [String.toList_append, List.append_assoc, List.append_cancel_left_eq] at hchars
  have hrest : (toString (m : Int)).toList ++ ']' :: rest.toList =
      (toString (n : Int)).toList ++ ']' :: rest'.toList := hchars
  have hsame := congrArg (List.takeWhile (· != ']')) hrest
  rw [digits, digits] at hsame
  exact Int.ofNat.inj (Json.toString_inj (String.toList_inj.mp hsame))

namespace Resolved

variable {checks : FieldChecks} {seen : List String} {position : Nat}

/-- Where no error comes up, all that is reported about fields are the names that SQL keeps. -/
theorem diagnostics_resolveFrom
    (h : (resolveFrom checks owner root seen position fs).1.any Diagnostic.isError = false) :
    (resolveFrom checks owner root seen position fs).1 = (fs.zipIdx position).flatMap fun x =>
      nameWarning checks x.1 (root ++ s!"[{x.2}]") := by
  induction fs generalizing seen position with
  | nil => rfl
  | cons f fs ih =>
    obtain ⟨hnew, ⟨t, ht, -⟩, hrest⟩ := resolveFrom_cons h
    have hfirst : ¬ (checks.duplicates && seen.contains f.name) = true := by simpa using hnew
    rw [List.zipIdx_cons, List.flatMap_cons, ← ih hrest, resolveFrom_of_new hfirst,
      resolveField_of_ok ht]

/-- A diagnostic points into a field without an error just when its name is kept by SQL, where that
is looked at. -/
theorem exists_inside_resolveFields (hf : fs[n]? = some f)
    (h : (resolveFields checks owner root fs).1.any Diagnostic.isError = false) :
    (∃ d ∈ (resolveFields checks owner root fs).1, d.IsInside (root ++ s!"[{n}]")) ↔
      checks.reserved = true ∧ Naming.isReserved f.name = true := by
  rw [resolveFields, diagnostics_resolveFrom h]
  constructor
  · rintro ⟨d, hd, rest, hpath⟩
    obtain ⟨⟨g, m⟩, hg, hd⟩ := List.mem_flatMap.mp hd
    obtain ⟨hreserved, rfl⟩ := mem_nameWarning.mp hd
    obtain rfl := position_inj hpath
    have hg : fs[m]? = some g := List.mk_mem_zipIdx_iff_getElem?.mp hg
    obtain rfl := Option.some.inj (hg.symm.trans hf)
    exact hreserved
  · intro hreserved
    exact ⟨_, List.mem_flatMap.mpr ⟨(f, n), List.mk_mem_zipIdx_iff_getElem?.mpr hf,
      mem_nameWarning.mpr ⟨hreserved, rfl⟩⟩, ".name", rfl⟩

end Resolved

namespace Draft

open Resolved

theorem not_inside_mention {entity : Option String} {x : Diagnostic} (hx : x ∈ mention c entity)
    (hkey : key = "fields" ∨ key = "request_fields") (place : String) :
    ¬ x.IsInside ("$." ++ key ++ place) := by
  rintro ⟨rest, hpath⟩
  have hentity : x.path = "$.entity" := by
    unfold mention lookUp at hx
    split at hx
    · simp at hx
    · split at hx
      · simp at hx
      · obtain rfl := List.mem_singleton.mp hx
        rfl
  have hchars := congrArg String.toList (hentity.symm.trans hpath)
  rcases hkey with rfl | rfl <;> simp [String.toList_append] at hchars

/-- Where no error comes up in new fields, a diagnostic points into one of them just when SQL keeps
its name. -/
theorem exists_inside_addField {i : Intent.AddField}
    (h : (addField c i).diagnostics.any Diagnostic.isError = false) (hf : i.fields[n]? = some f) :
    (∃ x ∈ (addField c i).diagnostics, x.IsInside ("$.fields" ++ s!"[{n}]")) ↔
      Naming.isReserved f.name = true := by
  simp only [addField, List.any_append, Bool.or_eq_false_iff] at h ⊢
  have hinside := exists_inside_resolveFields hf h.2
  rw [lookUp_eq_nil h.1, List.nil_append]
  exact hinside.trans (by simp)

/-- Where no error comes up in an endpoint, all that is reported is about the entity that it
mentions. -/
theorem diagnostics_addEndpoint {i : Intent.AddEndpoint}
    (h : (addEndpoint c i).diagnostics.any Diagnostic.isError = false) :
    (addEndpoint c i).diagnostics = mention c i.entity := by
  have silent {owner root : String} {fs : List AuthoredField}
      (h : (resolveFields messageChecks owner root fs).1.any Diagnostic.isError = false) :
      (resolveFields messageChecks owner root fs).1 = [] := by
    rw [resolveFields, diagnostics_resolveFrom h]
    simp [nameWarning, messageChecks]
  simp only [addEndpoint, List.any_append, Bool.or_eq_false_iff] at h ⊢
  obtain ⟨⟨-, hresponse⟩, hrequest⟩ := h
  rw [silent hresponse, silent hrequest, List.append_nil, List.append_nil]

/-- A diagnostic of the envelope of new fields points into a field just when SQL keeps its name;
those of an endpoint point into no field. -/
theorem exists_inside_iff (hk : (k, key) ∈ keylessLists) (hd : ofPart k c p = .ok d)
    (h : d.settle c now = .ok ir) (hf : (p.fields key)[n]? = some f) :
    (∃ x ∈ ir.diagnostics, x.IsInside ("$." ++ key ++ s!"[{n}]")) ↔
      k = .addField ∧ Naming.isReserved f.name = true := by
  have hsame : ir.diagnostics = d.diagnostics :=
    diagnostics_of_settle (draft_kind hd).1 (keys_body hd) h
  have herr := (settle_eq_ok h).1
  rw [hsame]
  have mentioned (hk : k = .addEndpoint) (hkey : key = "fields" ∨ key = "request_fields") :
      (∃ x ∈ d.diagnostics, x.IsInside ("$." ++ key ++ s!"[{n}]")) ↔
        k = .addField ∧ Naming.isReserved f.name = true := by
    subst hk
    obtain rfl := Except.ok.inj hd
    rw [diagnostics_addEndpoint herr]
    refine iff_of_false ?_ (by simp)
    rintro ⟨x, hx, hinside⟩
    exact not_inside_mention hx hkey _ hinside
  rcases mem_keylessLists.mp hk with ⟨rfl, rfl⟩ | ⟨hk, hkey⟩ | ⟨hk, hkey⟩
  · obtain rfl := Except.ok.inj hd
    exact (exists_inside_addField herr hf).trans (by simp)
  · exact mentioned hk (.inl hkey)
  · exact mentioned hk (.inr hkey)

/-- The envelope of a draft that holds no free values is written as JSON, and read as it was. -/
theorem exists_parse_json (hbound : Ir.isBound (envelopeModel k) = true)
    (hsolid : Ir.isSolid (envelopeModel k) = true) (hd : ofPart k c p = .ok d)
    (h : d.settle c now = .ok ir) :
    ∃ w y, ir.json = .ok w ∧ Ir.parse w = .ok y ∧ y.bare = ir.bare := by
  have hread := reads_of_settle hd h
  have hwhole : Reads Ir.schema levelLimit Ir.envelope (d.payload c now) ir :=
    reads_of_checker Ir.schema_faithful.shapes Ir.envelope_isFaithful (checker_envelope hd h)
  have hfault : ir.jsonFault? Ir.schema = none := by
    have hmodel := Instance.faultAs?_of_reads Ir.schema_faithful Ir.bound hread hbound
    cases hread with
    | plain hp => simp [isPlain] at hp
    | model => exact hmodel
  have hjson : ir.json = .ok (ir.wire Ir.schema) := by
    rw [Ir.Part.json, Instance.json, hfault]
  have hsayable : ir.Sayable := by
    refine ⟨⟨_, hwhole⟩, fun u hu => ?_⟩
    rw [Ir.freeValues_eq hread] at hu
    exact Instance.sayable_of_reads Ir.schema_faithful Ir.bound hread (.inl hbound) hu
  have hgaps : ir.gapsAs Ir.schema Ir.envelope = [] := by
    have hmodel := Instance.gapsAs_eq_nil Ir.schema_faithful Ir.solid hread hsolid
    unfold Ir.envelope at hwhole ⊢
    cases hwhole with
    | plain hp => simp [isPlain] at hp
    | tagged _ hmem hw =>
      rw [Instance.gapsAs_model] at hmodel
      rw [Ir.gapsAs_tagged hmem hw, Instance.gapsAs_model, hmodel, List.map_nil]
  have hmended : ir.mended = ir := by
    have hmodel := Instance.mendedAs_of_reads Ir.schema_faithful Ir.bound hread hbound
    cases hread with
    | plain hp => simp [isPlain] at hp
    | model => exact hmodel
  obtain ⟨y, hy, hparse⟩ := Instance.checker_dump Ir.schema_faithful Ir.envelope_isFaithful hwhole
  rw [hgaps] at hparse
  refine ⟨_, y, hjson, ?_, hy⟩
  rw [hsayable.json_eq_dump hjson, hmended, Ir.parse, Value.check_eq_checker]
  exact hparse

end Draft
end Reports

section Bare

variable {x y q q' : Ir.Part} {u : Value}

theorem Ir.Part.fieldsUnder_bare (x : Part) (k : Kind) (key : String) :
    fieldsUnder x.bare k key = (x.fieldsUnder k key).map Instance.bare := by
  have items (i : Part) : i.bare.items = i.items.map Instance.bare := by
    cases i <;> simp [Instance.items]
  unfold fieldsUnder
  split <;> simp [fields, get, Instance.field_bare, items]

theorem Resolved.isLiteral_of_bare_eq (h : q'.bare = q.bare)
    (hq : IsLiteral u (q.get "default")) : IsLiteral u (q'.get "default") := by
  have hget (name : String) :
      ((q'.get "default").get name).bare = ((q.get "default").get name).bare := by
    simp only [Ir.Part.get, ← Instance.field_bare, h]
  refine ⟨?_, ?_⟩
  · rw [Ir.Part.kind, ← Instance.text_bare, hget, Instance.text_bare]
    exact hq.1
  · have hvalue := (hget "value").trans (congrArg Instance.bare hq.2)
    generalize (q'.get "default").get "value" = i at hvalue ⊢
    cases i <;> simp_all

end Bare

namespace Resolution

open Draft Resolved

variable {c : Context} {now : DateTime} {k : Kind} {s : Submission} {key : String}
  {n : Nat} {u : Value} {ir : Ir.Part}

/-- The field that gives a default is there with it once the intent is read. -/
theorem exists_default (hk : (k, key) ∈ keylessLists) {p : Intent.Part}
    (hp : s.read k.model = .ok p)
    (hu : Intent.GivesDefault k.model key n u s) :
      ∃ f, (p.fields key)[n]? = some f ∧ f.default = u := by
  cases hu with
  | checked hof hf hdefault =>
    rw [Submission.read, if_pos hof] at hp
    obtain rfl := Except.ok.inj hp
    exact ⟨_, hf, hdefault⟩
  | @plain v hat =>
    have hplace : ∃ checks owner, (key, checks, owner) ∈ fieldPlaces k p := by
      rcases mem_keylessLists.mp hk with ⟨rfl, rfl⟩ | ⟨rfl, rfl⟩ | ⟨rfl, rfl⟩ <;> simp [fieldPlaces]
    obtain ⟨checks, owner, hplace⟩ := hplace
    obtain ⟨g, rfl, hg⟩ := listsFields_of_mem_fieldPlaces hplace
    rw [Submission.read, Intent.parse, Value.check_eq_checker] at hp
    exact Intent.exists_default_of_at? hg hp hat

/-- Of new fields and of an endpoint that come to an envelope, a field has a default there just when
its author gave it a scalar, or an attribute by which its value is made later. A list or a mapping
is left out otherwise, and that is never reported: a diagnostic points into a field just when it is
a new field whose name SQL keeps for itself. -/
theorem default_kept_iff (hk : (k, key) ∈ keylessLists) (h : (ofKind k c now s).result = .ok ir)
    (hu : Intent.GivesDefault k.model key n u s) :
    ∃ (p : Intent.Part) (f : AuthoredField) (q : Ir.Part), s.read k.model = .ok p ∧
      (p.fields key)[n]? = some f ∧ f.default = u ∧ (ir.fieldsUnder k key)[n]? = some q ∧
      (q.get "default" ≠ .plain .null ↔ isScalar u = true ∨ f.has madeAttributes = true) ∧
      ((∃ x ∈ ir.diagnostics, x.IsInside ("$." ++ key ++ s!"[{n}]")) ↔
        k = .addField ∧ Naming.isReserved f.name = true) := by
  obtain ⟨p, d, hp, hd, -, hs⟩ := ofKind_eq_ok h
  obtain ⟨f, hf, rfl⟩ := exists_default hk hp hu
  obtain ⟨owner, hfields⟩ := exists_isWrittenAs hk hd hs
  obtain ⟨q, hq, hwritten⟩ := exists_getElem?_of_forall₂ hfields hf
  exact ⟨p, f, q, hp, hf, rfl, hq, default_ne_null_iff hwritten, exists_inside_iff hk hd hs hf⟩

/-- A new field with a default, under a name that SQL keeps. -/
def ordered : Value :=
  .obj [("kind", .str "add_field"), ("scope", .str "data"), ("entity", .str "Post"),
    ("fields", .list [.obj [("name", .str "order"), ("type", .str "integer"),
      ("default", .int 1)]])]

theorem default_kept_iff_ordered :
    let c : Context := ⟨"intent", "project", "0.1.0", none, none, ⟨true, .snake⟩⟩
    let now : DateTime := ⟨⟨2024, 1, 2⟩, 12, 0, 0, 0, none⟩
    ∃ ir q, (ofKind .addField c now (.plain ordered)).result = .ok ir ∧
      (ir.fieldsUnder .addField "fields")[0]? = some q ∧ q.get "default" ≠ .plain .null ∧
      ∃ x ∈ ir.diagnostics, x.IsInside "$.fields[0]" := by
  intro c now
  have accepted : (ofKind .addField c now (.plain ordered)).result.isOk = true := by decide +kernel
  have authored : (Intent.parse .addField ordered).toOption.map (fun p =>
      (Intent.Part.fields p "fields")[0]?.map (·.name)) = some (some "order") := by decide +kernel
  obtain ⟨ir, hresolved⟩ := exists_eq_ok accepted
  have hk : (Kind.addField, "fields") ∈ keylessLists := by decide
  obtain ⟨p, f, q, hp, hf, -, hq, hdefault, hreported⟩ :=
    default_kept_iff (n := 0) (u := .int 1) hk hresolved (.plain rfl)
  rw [show Intent.parse .addField ordered = .ok p from hp] at authored
  have hname : f.name = "order" := by simpa [Except.toOption, hf] using authored
  have hreserved : Naming.isReserved f.name = true := by
    rw [hname]
    decide +kernel
  exact ⟨ir, q, hresolved, hq, hdefault.mpr (.inl rfl), hreported.mpr ⟨rfl, hreserved⟩⟩

/-- A new field with a list for its default. -/
def labelled : Value :=
  .obj [("kind", .str "add_field"), ("scope", .str "data"), ("entity", .str "Post"),
    ("fields", .list [
      .obj [("name", .str "labels"), ("type", .str "json"), ("default", .list [.str "a"])]])]

/-- The list is not in the envelope, and nothing is reported at all. -/
theorem default_lost_labelled :
    let c : Context := ⟨"intent", "project", "0.1.0", none, none, ⟨true, .snake⟩⟩
    let now : DateTime := ⟨⟨2024, 1, 2⟩, 12, 0, 0, 0, none⟩
    labelled.at? (Intent.defaultPlace "fields" 0) = some (.list [.str "a"]) ∧
      ∃ ir q, (ofKind .addField c now (.plain labelled)).result = .ok ir ∧
        ir.fieldsUnder .addField "fields" = [q] ∧ q.get "default" = .plain .null ∧
        ir.diagnostics = [] := by
  intro c now
  have silent : (ofKind .addField c now (.plain labelled)).result.toOption.map (fun ir =>
      ((ir.fieldsUnder .addField "fields").map fun q => (q.get "default").isNull,
        ir.diagnostics.isEmpty)) = some ([true], true) := by decide +kernel
  obtain ⟨ir, hir, hsilent⟩ := Option.map_eq_some_iff.mp silent
  obtain ⟨hfields, hnone⟩ := Prod.mk.inj hsilent
  obtain ⟨q, _, hq, hnull, hrest⟩ := List.map_eq_cons_iff.mp hfields
  obtain rfl := List.map_eq_nil_iff.mp hrest
  exact ⟨rfl, ir, q, eq_ok_of_toOption hir, hq, Instance.isNull_iff.mp hnull,
    List.isEmpty_iff.mp hnone⟩

/-- A scalar that a new field or a field of an endpoint has for its default, and no word for a value
that is made later, is the default of the field in the envelope: a literal of the same kind with the
same value. The envelope can be written as JSON, and it is still so when that is read again. -/
theorem literal_default (hk : (k, key) ∈ keylessLists) (h : (ofKind k c now s).result = .ok ir)
    (hu : Intent.GivesDefault k.model key n u s) (hself : StandsForItself u) :
    (∃ q, (ir.fieldsUnder k key)[n]? = some q ∧ IsLiteral u (q.get "default")) ∧
      ∃ (w : Value) (y q : Ir.Part), ir.json = .ok w ∧ Ir.parse w = .ok y ∧
        (y.fieldsUnder k key)[n]? = some q ∧ IsLiteral u (q.get "default") := by
  obtain ⟨p, d, hp, hd, -, hs⟩ := ofKind_eq_ok h
  obtain ⟨f, hf, rfl⟩ := exists_default hk hp hu
  obtain ⟨owner, hfields⟩ := exists_isWrittenAs hk hd hs
  obtain ⟨q, hq, hwritten⟩ := exists_getElem?_of_forall₂ hfields hf
  have hliteral := isLiteral_of_isWrittenAs hwritten hself
  have hsorts : Ir.isBound (envelopeModel k) = true ∧ Ir.isSolid (envelopeModel k) = true := by
    rcases mem_keylessLists.mp hk with ⟨rfl, -⟩ | ⟨rfl, -⟩ | ⟨rfl, -⟩ <;> decide
  obtain ⟨w, y, hw, hy, hbare⟩ := exists_parse_json hsorts.1 hsorts.2 hd hs
  have hsame : ((Ir.Part.fieldsUnder y k key).map Instance.bare)[n]? = some (Instance.bare q) := by
    rw [← Ir.Part.fieldsUnder_bare, hbare, Ir.Part.fieldsUnder_bare, List.getElem?_map, hq]
    rfl
  rw [List.getElem?_map, Option.map_eq_some_iff] at hsame
  obtain ⟨q', hq', hqq'⟩ := hsame
  exact ⟨⟨q, hq, hliteral⟩, w, y, q', hw, hy, hq', isLiteral_of_bare_eq hqq' hliteral⟩

/-- An endpoint that takes a whole number for one field, and a text that looks like one for
another. -/
def paged : Value :=
  .obj [("kind", .str "add_endpoint"), ("scope", .str "api"), ("method", .str "GET"),
    ("path", .str "/posts"), ("request_fields", .list [
      .obj [("name", .str "page"), ("type", .str "integer"), ("default", .int 1)],
      .obj [("name", .str "version"), ("type", .str "string"), ("default", .str "1")]])]

theorem literal_default_paged :
    let c : Context := ⟨"intent", "project", "0.1.0", none, none, ⟨true, .snake⟩⟩
    let now : DateTime := ⟨⟨2024, 1, 2⟩, 12, 0, 0, 0, none⟩
    ∃ ir, (ofKind .addEndpoint c now (.plain paged)).result = .ok ir ∧
      (∃ (w : Value) (y q : Ir.Part), ir.json = .ok w ∧ Ir.parse w = .ok y ∧
        (y.fieldsUnder .addEndpoint "request_fields")[0]? = some q ∧
          IsLiteral (.int 1) (q.get "default")) ∧
      ∃ (w : Value) (y q : Ir.Part), ir.json = .ok w ∧ Ir.parse w = .ok y ∧
        (y.fieldsUnder .addEndpoint "request_fields")[1]? = some q ∧
          IsLiteral (.str "1") (q.get "default") := by
  intro c now
  have accepted : (ofKind .addEndpoint c now (.plain paged)).result.isOk = true := by decide +kernel
  obtain ⟨ir, hresolved⟩ := exists_eq_ok accepted
  have hk : (Kind.addEndpoint, "request_fields") ∈ keylessLists := by decide
  have htext : StandsForItself (.str "1") := by
    rw [StandsForItself]
    decide +kernel
  exact ⟨ir, hresolved, (literal_default (n := 0) hk hresolved (.plain rfl) trivial).2,
    (literal_default (n := 1) hk hresolved (.plain rfl) htext).2⟩

end Resolution
end SchemaIntents
