import SchemaIntents.Proofs.Calendar
import SchemaIntents.Proofs.Context.Construction
import SchemaIntents.Proofs.Resolution.Acceptance
import SchemaIntents.Proofs.Shape.Deciding

/-! What all envelopes carry fits the schema whatever the intent says: their origin, and what was
reported while they were drafted, which can be read from them again. -/
namespace SchemaIntents

open Shape

/-- A diagnostic that says something, and not that an envelope does not fit. -/
def Diagnostic.IsOwn (d : Diagnostic) : Prop :=
  Text.IsProper d.code ∧ d.code ≠ "IR099" ∧ d.message ≠ ""

variable {l : Nat}

/-- Why a text is no version, if it is none. -/
def versionFault? (version : String) : Option Cause :=
  textFault? 0 none (some .version) version

theorem versionFault?_eq_none {version : String} :
    versionFault? version = none ↔ Pattern.version.accepts version = true := by
  rw [versionFault?, textFault?_formed]
  exact and_iff_right_of_imp Pattern.isTorn_of_version

/-- The origin that a context gives can only be wrong in its version. -/
theorem finds_provenance {c : Context} {now : DateTime} (hintent : Text.IsProper c.intentId)
    (hproject : Text.IsProper c.projectId) (ht : now.IsValid) :
    Finds ((c.provenance now).checker Ir.schema l (.model .provenance))
      ((versionFault? c.version).map (⟨·, [.key "sourceIntentVersion"]⟩)).toList := by
  let issues := ((versionFault? c.version).map fun cause => (⟨cause, []⟩ : Issue)).toList
  have moment : textFault? 0 none (some .utcMoment) now.millisecondText = none :=
    have haccepts := Pattern.accepts_millisecondText ht
    textFault?_formed.mpr ⟨Pattern.isTorn_of_utcMoment haccepts, haccepts⟩
  have version : ∀ l, Finds ((Value.str c.version).checker Ir.schema l (.formed .version)) issues :=
    fun l => finds_text c.version
  have found : (Ir.schema .provenance).fields.flatMap (fun f =>
      (if f.wire = "sourceIntentVersion" then issues else []).map (·.under (.key f.wire))) =
        ((versionFault? c.version).map (⟨·, [.key "sourceIntentVersion"]⟩)).toList := by
    cases h : versionFault? c.version <;> simp [Ir.schema, Ir.provenance, issues, h, Issue.under]
  rw [Context.provenance, ← found]
  cases c.model.filter (· != "") with
  | none =>
    refine finds_obj (Nat.zero_le _) rfl rfl ?_
    simp [Ir.schema, Ir.provenance]
    simp [Value.find?, hintent, hproject, moment, version]
  | some m =>
    refine finds_obj (Nat.zero_le _) rfl rfl ?_
    simp [Ir.schema, Ir.provenance]
    simp [Value.find?, hintent, hproject, moment, version]

theorem fits_provenance {c : Context} {now : DateTime} (hc : c.IsValid) (ht : now.IsValid) :
    Finds ((c.provenance now).checker Ir.schema l (.model .provenance)) [] := by
  have hfinds := finds_provenance (l := l) hc.intentId_proper hc.projectId_proper ht
  rwa [versionFault?_eq_none.mpr hc.version_accepted] at hfinds

theorem fits_diagnostic {d : Diagnostic} (h : d.IsOwn) (hwhole : Text.isTorn d.message = false) :
    Finds (d.toValue.checker Ir.schema l (.model .diagnostic)) [] := by
  obtain ⟨hcode, -, hmessage⟩ := h
  have severity : d.severity.name ∈ ["error", "warning", "info"] := by
    cases d.severity <;> decide
  refine fits_obj (Nat.zero_le _) rfl rfl ?_
  simp only [Ir.schema, Ir.diagnostic]
  simpa [Value.find?, hcode, Text.isProper_iff, hwhole, hmessage] using severity

theorem level_envelope (k : Intent.Kind) : (Ir.schema (envelopeModel k)).level = 0 := by
  cases k <;> rfl

theorem fits_diagnostics {ds : List Diagnostic} (h : ∀ d ∈ ds, d.IsOwn)
    (hwhole : ∀ d ∈ ds, Text.isTorn d.message = false) :
    Finds ((Value.list (ds.map Diagnostic.toValue)).checker Ir.schema l
      (.list 0 (.model .diagnostic))) [] := by
  refine fits_list (Nat.zero_le _) fun v hv => ?_
  obtain ⟨d, hd, rfl⟩ := List.mem_map.mp hv
  exact fits_diagnostic (h d hd) (hwhole d hd)

theorem Severity.ofName?_name (s : Severity) : Severity.ofName? s.name = some s := by
  cases s <;> rfl

/-- A diagnostic that fits the schema is read as it was. -/
theorem diagnostic_of_checker {d : Diagnostic} {i : Ir.Part}
    (h : d.toValue.checker Ir.schema l (.model .diagnostic) = .ok i) : i.diagnostic = d := by
  have hcode : (Ir.Part.get i "code").text = d.code :=
    Draft.text_of_payload (f := .required "code" "code" .someText) h
      (by simp [Ir.schema, Ir.diagnostic]) rfl rfl
  have hmessage : (Ir.Part.get i "message").text = d.message :=
    Draft.text_of_payload (f := .required "message" "message" .someText) h
      (by simp [Ir.schema, Ir.diagnostic]) rfl rfl
  have hpath : (Ir.Part.get i "path").text = d.path :=
    Draft.text_of_payload (f := .required "path" "path" .anyText) h
      (by simp [Ir.schema, Ir.diagnostic]) rfl rfl
  have hseverity : (Value.str d.severity.name).checker Ir.schema l
      (.oneOf ["error", "warning", "info"]) = .ok (Ir.Part.get i "severity") :=
    Instance.field_of_checker
      (f := .required "severity" "severity" (.oneOf ["error", "warning", "info"]))
        (Ir.names_nodup _)
      h (by simp [Ir.schema, Ir.diagnostic]) rfl
  obtain ⟨_, -, -, hfield⟩ := checker_oneOf_eq_ok.mp hseverity
  have hname : (Ir.Part.get i "severity").text = d.severity.name := by
    rw [hfield]
    rfl
  simp only [Ir.Part.diagnostic, hcode, hmessage, hpath, hname, Severity.ofName?_name,
    Option.getD_some]

theorem diagnostics_of_checker {ds : List Diagnostic} {i : Ir.Part}
    (h : (Value.list (ds.map Diagnostic.toValue)).checker Ir.schema l
      (.list 0 (.model .diagnostic)) = .ok i) : i.items.map Ir.Part.diagnostic = ds :=
  map_items diagnostic_of_checker h

/-- The fields of an envelope: those that all envelopes have, and its own between them. -/
def envelopeFields (kind : String) (own : List (Field Ir.Name)) : List (Field Ir.Name) :=
  [.constant "kind" "kind" kind, .constant "ir_version" "irVersion" "1.0.0",
    .required "provenance" "provenance" (.model .provenance)] ++ own ++
    [.required "diagnostics" "diagnostics" (.list 0 (.model .diagnostic))]

/-- The fields of its own that a kind of envelopes has. -/
def ownFields (k : Intent.Kind) : List (Field Ir.Name) :=
  ((Ir.schema (envelopeModel k)).fields.drop 3).dropLast

theorem fields_envelope (k : Intent.Kind) :
    (Ir.schema (envelopeModel k)).fields = envelopeFields (envelopeKind k) (ownFields k) := by
  cases k <;> rfl

theorem wires_ownFields (k : Intent.Kind) : ∀ key ∈ (ownFields k).map (·.wire),
    key ∉ ["kind", "irVersion", "provenance", "diagnostics"] := by
  cases k <;> decide

theorem Shape.FindsAt.of_present {ν : Type} {schema : Schema ν} {s : Shape ν} {absent : Bool}
    {o : Option Value} {issues : List Issue} (h : FindsAt schema l s false o issues) :
    FindsAt schema l s absent o issues := by
  cases o with
  | none => simp at h
  | some v => exact h

namespace Draft

variable {k : Intent.Kind} {d : Draft} {c : Context} {now : DateTime}

/-- The entries of an envelope as plain data. -/
def entries (d : Draft) (c : Context) (now : DateTime) : List (String × Value) :=
  [("kind", .str d.kind), ("irVersion", .str "1.0.0"), ("provenance", c.provenance now)] ++
    d.body ++ [("diagnostics", .list (d.diagnostics.map Diagnostic.toValue))]

/-- The value of one of its own fields in an envelope is that in the draft. -/
theorem find?_entries {key : String} (hkey : key ∈ (ownFields k).map (·.wire)) :
    Value.find? key (d.entries c now) = Value.find? key d.body := by
  have hne := wires_ownFields k key hkey
  simp only [List.mem_cons, List.not_mem_nil, or_false, not_or] at hne
  rw [entries, Value.find?_append, Value.find?_append, Value.find?_eq_none (by simp [hne])]
  simp [Value.find?, Ne.symm hne.2.2.2]

theorem find?_diagnostics (hkeys : ∀ e ∈ d.body, e.1 ∈ (ownFields k).map (·.wire)) :
    Value.find? "diagnostics" (d.entries c now) =
      some (.list (d.diagnostics.map Diagnostic.toValue)) := by
  have hbody : Value.find? "diagnostics" d.body = none := by
    refine Value.find?_eq_none fun hmem => ?_
    obtain ⟨e, he, hkey⟩ := List.mem_map.mp hmem
    exact wires_ownFields k _ (hkeys e he) (by simp [hkey])
  rw [entries, Value.find?_append, Value.find?_append, hbody]
  rfl

theorem areFields_entries (hkeys : ∀ e ∈ d.body, e.1 ∈ (ownFields k).map (·.wire)) :
    areFields Ir.schema (envelopeModel k) ((d.entries c now).map (·.1)) = true := by
  have hbody : ∀ key v, (key, v) ∈ d.body → ∃ f ∈ ownFields k, f.wire = key := fun key v he => by
    simpa using hkeys (key, v) he
  simpa [areFields, fields_envelope, envelopeFields, entries] using fun key v he =>
    .inr (.inr (.inr (.inl (hbody key v he))))

theorem rule_envelope (k : Intent.Kind) : (Ir.schema (envelopeModel k)).rule = none := by
  cases k <;> rfl

/-- An envelope finds what its own fields find in the draft. -/
theorem finds_payload {found : String → List Issue} (hm : d.model = envelopeModel k)
    (hk : d.kind = envelopeKind k) (hc : c.IsValid) (ht : now.IsValid)
    (hdiag : ∀ x ∈ d.diagnostics, x.IsOwn)
    (hwhole : ∀ x ∈ d.diagnostics, Text.isTorn x.message = false)
    (hkeys : ∀ e ∈ d.body, e.1 ∈ (ownFields k).map (·.wire))
    (hcommon : ∀ key ∈ ["kind", "irVersion", "provenance", "diagnostics"], found key = [])
    (h : ∀ f ∈ ownFields k, FindsAt Ir.schema (levelLimit - f.level) f.shape false
      (Value.find? f.wire d.body) (found f.wire)) :
    Finds ((d.payload c now).checker Ir.schema levelLimit (.model d.model))
      ((ownFields k).flatMap fun f => (found f.wire).map (·.under (.key f.wire))) := by
  have hlevel := level_envelope k
  have hrule := rule_envelope k
  have hfields : areFields Ir.schema (envelopeModel k) ((d.entries c now).map (·.1)) = true :=
    areFields_entries hkeys
  have hfound : (Ir.schema (envelopeModel k)).fields.flatMap
      (fun f => (found f.wire).map (·.under (.key f.wire))) =
      (ownFields k).flatMap fun f => (found f.wire).map (·.under (.key f.wire)) := by
    simp [fields_envelope, envelopeFields, hcommon]
  rw [hm, ← hfound, show d.payload c now = .obj (d.entries c now) from rfl]
  refine finds_obj (hlevel ▸ Nat.zero_le _) hrule hfields fun f hf => ?_
  rw [fields_envelope, envelopeFields, List.mem_append, List.mem_append] at hf
  rw [hlevel]
  rcases hf with (hf | hf) | hf
  · simp only [List.mem_cons, List.not_mem_nil, or_false] at hf
    rcases hf with rfl | rfl | rfl
    · rw [show Value.find? _ (d.entries c now) = some (.str d.kind) from rfl]
      simp [hcommon, hk]
    · rw [show Value.find? _ (d.entries c now) = some (.str "1.0.0") from rfl]
      simp [hcommon]
    · rw [show Value.find? _ (d.entries c now) = some (c.provenance now) from rfl]
      simpa [hcommon] using fits_provenance hc ht
  · rw [find?_entries (List.mem_map_of_mem hf)]
    exact (h f hf).of_present
  · obtain rfl := List.mem_singleton.mp hf
    simpa [hcommon, find?_diagnostics hkeys] using fits_diagnostics hdiag hwhole

/-- The envelope of a draft with one entry of its own fits just where that entry does. -/
theorem decides_payload {name key : String} {s : Shape Ir.Name} {v : Value} {p : Prop}
    (hm : d.model = envelopeModel k) (hk : d.kind = envelopeKind k) (hc : c.IsValid)
      (ht : now.IsValid)
    (hdiag : ∀ x ∈ d.diagnostics, x.IsOwn)
    (hwhole : ∀ x ∈ d.diagnostics, Text.isTorn x.message = false)
      (hown : ownFields k = [.required name key s])
    (hbody : d.body = [(key, v)]) (h : Decides (v.checker Ir.schema levelLimit s) p) :
    Decides ((d.payload c now).checker Ir.schema levelLimit (.model d.model)) p := by
  obtain ⟨issues, hfound, hp⟩ := h
  let found (other : String) : List Issue := if other = key then issues else []
  have hcommon : ∀ other ∈ ["kind", "irVersion", "provenance", "diagnostics"],
    found other = [] := by
    intro other hmem
    refine if_neg ?_
    rintro rfl
    exact wires_ownFields k other (by simp [hown, Field.required]) hmem
  refine ⟨_, finds_payload hm hk hc ht hdiag hwhole
    (by simp [hbody, hown, Field.required]) hcommon ?_, ?_⟩
  · simpa [hown, hbody, Field.required, Value.find?, found] using hfound
  · simpa [hown, Field.required, found] using hp

/-- Drafts have the fields of their own that the schema gives their envelopes. -/
theorem keys_body {p : Intent.Part} (hd : ofPart k c p = .ok d) :
    ∀ e ∈ d.body, e.1 ∈ (ownFields k).map (·.wire) := by
  cases k with
  | addCapability =>
    simp only [ofPart, addCapability] at hd
    split at hd
    · exact absurd hd throw_ne_ok
    · obtain ⟨overlay, -, hd⟩ := bind_eq_ok hd
      obtain rfl := Except.ok.inj hd
      simp [ownFields, envelopeModel, Ir.schema, Ir.addCapability]
  | _ =>
    obtain rfl := Except.ok.inj hd
    simp [addEntity, addField, addRelation, removeEntity, removeField, renameEntity, renameField,
      addEndpoint, updateEndpoint, addComponent, ownFields, envelopeModel, Ir.schema, Ir.addEntity,
      Ir.addField, Ir.addRelation, Ir.removeEntity, Ir.removeField, Ir.renameEntity, Ir.renameField,
      Ir.addEndpoint, Ir.updateEndpoint, Ir.addComponent]

/-- The only entry of its own in a draft is read in its envelope. -/
theorem checker_of_settle {ir : Ir.Part} {name key : String} {s : Shape Ir.Name} {v : Value}
    (hm : d.model = envelopeModel k) (hown : ownFields k = [.required name key s])
    (hbody : d.body = [(key, v)]) (h : d.settle c now = .ok ir) :
    v.checker Ir.schema levelLimit s = .ok (ir.get name) := by
  have hp : (Value.obj (d.entries c now)).checker Ir.schema levelLimit
      (.model (envelopeModel k)) = .ok ir := hm ▸ (settle_eq_ok h).2
  have hentry : Value.find? key (d.entries c now) = some v := by
    rw [find?_entries (k := k) (by simp [hown, Field.required]), hbody]
    simp [Value.find?]
  have hfield := Instance.field_of_checker (f := .required name key s) (Ir.names_nodup _) hp
    (by simp [fields_envelope, envelopeFields, hown]) hentry
  rwa [level_envelope] at hfield

/-- The diagnostics of an envelope come of what was reported for its draft. -/
theorem checker_diagnostics {ir : Ir.Part} (hm : d.model = envelopeModel k)
    (hkeys : ∀ e ∈ d.body, e.1 ∈ (ownFields k).map (·.wire)) (h : d.settle c now = .ok ir) :
    (Value.list (d.diagnostics.map Diagnostic.toValue)).checker Ir.schema
      (levelLimit - (Ir.schema (envelopeModel k)).level) (.list 0 (.model .diagnostic)) =
        .ok (ir.get "diagnostics") := by
  have hp : (Value.obj (d.entries c now)).checker Ir.schema levelLimit
      (.model (envelopeModel k)) = .ok ir := hm ▸ (settle_eq_ok h).2
  exact Instance.field_of_checker
    (f := .required "diagnostics" "diagnostics" (.list 0 (.model .diagnostic)))
      (Ir.names_nodup _) hp
    (by simp [fields_envelope, envelopeFields]) (find?_diagnostics hkeys)

/-- An envelope carries what was reported for its draft. -/
theorem diagnostics_of_settle {ir : Ir.Part} (hm : d.model = envelopeModel k)
    (hkeys : ∀ e ∈ d.body, e.1 ∈ (ownFields k).map (·.wire)) (h : d.settle c now = .ok ir) :
    ir.diagnostics = d.diagnostics :=
  diagnostics_of_checker (checker_diagnostics hm hkeys h)

end Draft

end SchemaIntents
