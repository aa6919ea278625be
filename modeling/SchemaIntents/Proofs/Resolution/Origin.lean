import Mathlib.Data.List.Nodup
import SchemaIntents.Proofs.Context.Version
import SchemaIntents.Proofs.Draft.Envelope
import SchemaIntents.Proofs.Resolution.Collected

/-! The origin that a context gives to envelopes. A context that states its version can be used for
every intent; one that has it from the settings can be used for all intents or for none. -/
namespace SchemaIntents

open Intent (Kind Submission)
open Shape

namespace Draft

variable {k : Kind} {c : Context} {now : DateTime} {p : Intent.Part} {d : Draft} {l : Nat}

/-- The field of an envelope for its origin. -/
def originField : Field Ir.Name :=
  .required "provenance" "provenance" (.model .provenance)

theorem mem_originField (k : Kind) : originField ∈ (Ir.schema (envelopeModel k)).fields := by
  simp [fields_envelope, envelopeFields, originField]

/-- No other field of an envelope is spelled like that of its origin. -/
theorem eq_originField {f : Field Ir.Name} (hf : f ∈ (Ir.schema (envelopeModel k)).fields)
    (hkey : f.wire = "provenance" ∨ f.name = "provenance") : f = originField := by
  have hspelled : ∀ g ∈ (Ir.schema (envelopeModel k)).fields, g.wire = "provenance" ↔
    g.name = "provenance" := by
    cases k <;> decide
  have hname : f.name = originField.name := hkey.elim (hspelled f hf).mp id
  exact List.inj_on_of_nodup_map (Ir.names_nodup _) hf (mem_originField k) hname

theorem fieldOutcome_origin (d : Draft) (c : Context) (now : DateTime) (l : Nat) :
    fieldOutcome Ir.schema l (textKeyed (d.entries c now)) originField =
      ((c.provenance now).checker Ir.schema l (.model .provenance)).under (.key "provenance") := rfl

/-- What keeps a payload from fitting are the issues of its fields. -/
theorem issues_of_payload {issues : List Issue} (hd : ofPart k c p = .ok d)
    (h : (d.payload c now).check Ir.schema (.model d.model) = .error issues) :
    issues = (Ir.schema (envelopeModel k)).fields.flatMap fun f =>
      (fieldOutcome Ir.schema levelLimit (textKeyed (d.entries c now)) f).issues := by
  have hlevel := level_envelope k
  have hknown : ∀ e ∈ d.entries c now, e.1 ∈ (Ir.schema (envelopeModel k)).fields.map (·.wire) :=
    fun e he => by
      simpa using List.all_eq_true.mp (areFields_entries (keys_body hd)) e.1
        (List.mem_map_of_mem he)
  rw [(draft_kind hd).1, Value.check_eq_checker, show d.payload c now =
    .obj (d.entries c now) from rfl] at h
  have hwhole : ∀ e ∈ d.entries c now, Text.isTorn e.1 = false := fun e he =>
    isTorn_wire (hknown e he)
  rw [issues_of_checker (hlevel ▸ Nat.zero_le _) (rule_envelope k) (isTornRecord_eq_false hwhole) h,
    strangers_eq_nil hwhole hknown, hlevel, List.append_nil]
  rfl

/-- What is said of an envelope whose origin has no version, for one cause or another. -/
def versionReport (cause : Cause) : Diagnostic :=
  ⟨"IR099", .error, "IR validation failed: " ++ cause.message, "$.provenance.sourceIntentVersion"⟩

/-- No issue of an envelope lies in an origin that fits. -/
theorem location_ne_provenance {issues : List Issue} (hd : ofPart k c p = .ok d) (hc : c.IsValid)
    (ht : now.IsValid) (h : (d.payload c now).check Ir.schema (.model d.model) = .error issues) :
    ∀ i ∈ issues, ∀ rest, i.location ≠ .key "provenance" :: rest := by
  rw [issues_of_payload hd h]
  intro i hi rest hloc
  obtain ⟨f, hf, hi⟩ := List.mem_flatMap.mp hi
  obtain ⟨rest', hspelled⟩ := location_of_mem_fieldOutcome hi
  have hkey : f.wire = "provenance" ∨ f.name = "provenance" := by
    rcases hspelled with hs | hs <;> rw [hs] at hloc
    · exact .inl (by simpa using (List.cons.inj hloc).1)
    · exact .inr (by simpa using (List.cons.inj hloc).1)
  obtain ⟨j, hj⟩ := fits_provenance (l := levelLimit) hc ht
  rw [eq_originField hf hkey, fieldOutcome_origin, hj] at hi
  simp at hi

/-- Where the version of an origin is none, no draft fits, and if nothing else was held against it
that is reported. -/
theorem mem_misfitReports {cause : Cause} (hd : ofPart k c p = .ok d)
    (hintent : Text.IsProper c.intentId)
    (hproject : Text.IsProper c.projectId) (hversion : versionFault? c.version = some cause)
    (ht : now.IsValid) (herr : d.diagnostics.any Diagnostic.isError = false) :
    versionReport cause ∈ d.misfitReports c now := by
  have horigin : ((c.provenance now).checker Ir.schema levelLimit (.model .provenance)) =
      .error [⟨cause, [.key "sourceIntentVersion"]⟩] := by
    have hfinds := finds_provenance (l := levelLimit) hintent hproject ht
    rw [hversion] at hfinds
    exact hfinds
  have hfound : ⟨cause, [.key "provenance", .key "sourceIntentVersion"]⟩ ∈
      (fieldOutcome Ir.schema levelLimit (textKeyed (d.entries c now)) originField).issues := by
    rw [fieldOutcome_origin, horigin]
    simp [Issue.under]
  have hunfit : ∀ ir, (d.payload c now).check Ir.schema (.model d.model) ≠ .ok ir := by
    intro ir hir
    rw [(draft_kind hd).1, Value.check_eq_checker] at hir
    change (Value.obj (d.entries c now)).checker Ir.schema levelLimit _ = _ at hir
    have hout := Instance.fieldOutcome_of_checker (Ir.names_nodup _) hir (mem_originField k)
    rw [fieldOutcome_origin, level_envelope, Nat.sub_zero, horigin] at hout
    cases hout
  rw [misfitReports, if_neg (by simp [herr])]
  cases hcheck : (d.payload c now).check Ir.schema (.model d.model) with
  | ok ir => exact absurd hcheck (hunfit ir)
  | error issues =>
    refine List.mem_map.mpr ⟨⟨cause, [.key "provenance", .key "sourceIntentVersion"]⟩, ?_, ?_⟩
    · rw [issues_of_payload hd hcheck]
      exact List.mem_flatMap.mpr ⟨originField, mem_originField k, hfound⟩
    · rw [versionReport, show Location.path _ = "$.provenance.sourceIntentVersion" by rfl]

end Draft

namespace Context

/-- A context that is made from arguments, with the settings of an environment for what they leave
open, gives envelopes an origin that fits just when its version is stated or the settings have one.
In the first case nothing is ever found in the origin of an envelope. In the other case no intent
comes to an envelope, and all that nothing else was held against is refused for the version. -/
theorem fits_provenance_iff {environment : Environment} {f : Folder} {place : List String}
    {arguments : List (String × Value)} {c : Context} {now : DateTime}
    (h : ofArguments ((Settings.load [] environment f place).map (·.1)) arguments = .ok c)
    (ht : now.IsValid) :
    let stated := (Value.find? "oiml_version" arguments).isSome = true ∨
      ∃ full, Settings.environmentWith environment f place = .ok full ∧
        Pattern.version.accepts (Settings.versionIn full) = true
    ((∃ i, (c.provenance now).check Ir.schema (.model .provenance) = .ok i) ↔ stated) ∧
    (stated → ∀ k p d issues, Draft.ofPart k c p = .ok d →
      (d.payload c now).check Ir.schema (.model d.model) = .error issues →
      ∀ i ∈ issues, ∀ rest, i.location ≠ .key "provenance" :: rest) ∧
    (¬ stated → ∀ k s, (∀ ir, (Resolution.ofKind k c now s).result ≠ .ok ir) ∧
      ∀ p d, s.read k.model = .ok p → Draft.ofPart k c p = .ok d →
        d.diagnostics.any Diagnostic.isError = false →
        ∃ cause, versionFault? c.version = some cause ∧
          Draft.versionReport cause ∈ (Resolution.collected k c now s).entries) := by
  intro stated
  obtain ⟨hintent, hproject⟩ := ids_of_ofArguments h
  have hvalid := isValid_iff_of_ofArguments h
  have hstated : stated ↔ Pattern.version.accepts c.version = true := by
    have hversion := version_of_ofArguments h
    cases hv : Value.find? "oiml_version" arguments with
    | some v =>
      simp only [hv] at hversion
      simp [stated, hv, hversion]
    | none =>
      simp only [hv] at hversion
      obtain ⟨s, hs, hversion⟩ := hversion
      cases hload : Settings.load [] environment f place with
      | error fault => simp [hload, Except.map] at hs
      | ok loaded =>
        obtain rfl : loaded.1 = s := by simpa [hload, Except.map] using hs
        obtain ⟨full, hfull, hin⟩ := Settings.version_of_load hload
        rw [hversion, hin]
        simp [stated, hv, hfull]
  have hfits : (∃ i, (c.provenance now).check Ir.schema (.model .provenance) = .ok i) ↔
      Pattern.version.accepts c.version = true := by
    have hfinds := finds_provenance (l := levelLimit) hintent hproject ht
    rw [Value.check_eq_checker, ← hfinds.eq_nil_iff]
    simp [versionFault?_eq_none]
  refine ⟨hfits.trans hstated.symm, fun hs k p d issues hd hcheck => ?_, fun hs k s => ?_⟩
  · exact Draft.location_ne_provenance hd (hvalid.mpr (hstated.mp hs)) ht hcheck
  · obtain ⟨cause, hversion⟩ : ∃ cause, versionFault? c.version = some cause :=
      Option.ne_none_iff_exists'.mp fun hnone =>
        hs (hstated.mpr (versionFault?_eq_none.mp hnone))
    have hreported : ∀ p d, s.read k.model = .ok p → Draft.ofPart k c p = .ok d →
        d.diagnostics.any Diagnostic.isError = false →
        Draft.versionReport cause ∈ (Resolution.collected k c now s).entries := by
      intro p d hp hd herr
      have hmem := Draft.mem_misfitReports hd hintent hproject hversion ht herr
      simp only [Resolution.collected, hp, hd]
      exact List.mem_append_right _ hmem
    refine ⟨fun ir hir => ?_, fun p d hp hd herr => ⟨cause, hversion, hreported p d hp hd herr⟩⟩
    obtain ⟨p, d, hp, hd, -, hsettle⟩ := Resolution.ofKind_eq_ok hir
    have hmem := hreported p d hp hd (Draft.settle_eq_ok hsettle).1
    rcases Resolution.result_cases k c now s with ⟨m, hm⟩ | ⟨-, -, -, hnone⟩ | ⟨r, hr, -⟩
    · simp [hm] at hir
    · exact Collector.hasErrors_eq_false.mp hnone _ hmem rfl
    · simp [hr] at hir

theorem fits_provenance_iff_draft :
    let now : DateTime := ⟨⟨2024, 1, 2⟩, 12, 0, 0, 0, none⟩
    ∃ c, ofArguments ((Settings.load [] [("OIML_DEFAULT_OIML_VERSION", "draft")] {} []).map (·.1))
        [("intent_id", .str "intent"), ("project_id", .str "project")] = .ok c ∧
      (¬ ∃ i, (c.provenance now).check Ir.schema (.model .provenance) = .ok i) ∧
      ∀ k s ir, (Resolution.ofKind k c now s).result ≠ .ok ir := by
  intro now
  have ht : now.IsValid := by decide
  have made : (ofArguments ((Settings.load [] [("OIML_DEFAULT_OIML_VERSION", "draft")] {} []).map
      (·.1))
      [("intent_id", .str "intent"), ("project_id", .str "project")]).isOk =
        true := by decide +kernel
  obtain ⟨c, hc⟩ := exists_eq_ok made
  have henv : Settings.environmentWith [("OIML_DEFAULT_OIML_VERSION", "draft")] {} [] =
      .ok [("OIML_DEFAULT_OIML_VERSION", "draft")] := eq_ok_of_toOption (by decide +kernel)
  have hversion : Pattern.version.accepts
      (Settings.versionIn [("OIML_DEFAULT_OIML_VERSION", "draft")]) = false := by decide +kernel
  obtain ⟨hfits, -, hnone⟩ := fits_provenance_iff hc ht
  have hopen : ¬ ((Value.find? "oiml_version"
      [("intent_id", .str "intent"), ("project_id", .str "project")]).isSome = true ∨
      ∃ full, Settings.environmentWith [("OIML_DEFAULT_OIML_VERSION", "draft")] {} [] = .ok full ∧
        Pattern.version.accepts (Settings.versionIn full) = true) := by
    rintro (hgiven | ⟨full, hfull, haccepts⟩)
    · cases hgiven
    · obtain rfl := Except.ok.inj (henv.symm.trans hfull)
      simp [hversion] at haccepts
  exact ⟨c, hc, mt hfits.mp hopen, fun k s => (hnone hopen k s).1⟩

end Context
end SchemaIntents
