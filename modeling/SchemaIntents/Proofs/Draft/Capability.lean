import SchemaIntents.Draft.Capability
import SchemaIntents.Proofs.Draft.Codes
import SchemaIntents.Proofs.Draft.Reports
import SchemaIntents.Proofs.Intent.Soundness
import SchemaIntents.Proofs.Resolution.Misuse
import SchemaIntents.Proofs.Resolved.Overlay

/-! New capabilities that are drafted: what is noted about them is no error, and they fit the schema
of envelopes if their overlays do. -/
namespace SchemaIntents

open Shape

open Intent (AddCapability)

/-- A remark says something and is no error. -/
def Diagnostic.IsRemark (d : Diagnostic) : Prop :=
  d.message ≠ "" ∧ d.isError = false

namespace Resolved.Overlay

variable {i : AddCapability} {o : Overlay} {l : Nat}

/-- The capabilities that have overlays. -/
def overlaid : List String :=
  ["email", "storage", "auth", "billing", "file_upload"]

/-- Each capability has an overlay of its own, or none. -/
theorem ofCapability?_cases {overlay : Option Overlay} (h : ofCapability? i = .ok overlay) :
    (i.capability = "email" ∧ overlay = some (email i)) ∨
    (i.capability = "storage" ∧ overlay = some (storage i)) ∨
    (i.capability = "auth" ∧ ∃ o, auth i = .ok o ∧ overlay = some o) ∨
    (i.capability = "billing" ∧ overlay = some (billing i)) ∨
    (i.capability = "file_upload" ∧ ∃ o, fileUpload i = .ok o ∧ overlay = some o) ∨
    (i.capability ∉ overlaid ∧ overlay = none) := by
  have of_map : ∀ {x : Except Misuse Overlay}, x.map some = .ok overlay →
      ∃ o, x = .ok o ∧ overlay = some o := by
    intro x hx
    cases x with
    | error m => simp [Except.map] at hx
    | ok o => exact ⟨o, rfl, (Except.ok.inj hx).symm⟩
  unfold ofCapability? at h
  split at h
  · exact .inl ⟨‹_›, (Except.ok.inj h).symm⟩
  split at h
  · exact .inr (.inl ⟨‹_›, (Except.ok.inj h).symm⟩)
  split at h
  · exact .inr (.inr (.inl ⟨‹_›, of_map h⟩))
  split at h
  · exact .inr (.inr (.inr (.inl ⟨‹_›, (Except.ok.inj h).symm⟩)))
  split at h
  · exact .inr (.inr (.inr (.inr (.inl ⟨‹_›, of_map h⟩))))
  · exact .inr (.inr (.inr (.inr (.inr ⟨by simp [overlaid, *], (Except.ok.inj h).symm⟩))))

theorem auth_eq_ok (h : auth i = .ok o) : ∃ members found, strategies i = .ok (members, found) ∧
    o.value = .obj [("type", .str "auth"), ("strategies", .list members),
      ("session", defaultSession), ("password", defaultPasswordPolicy)] ∧
    o.notes = [found, note "CAP009" "Using default session configuration (24h, cookie-based)"
      "$.config", note "CAP010" "Using default password requirements" "$.config"] := by
  obtain ⟨⟨members, found⟩, hs, h⟩ := bind_eq_ok h
  obtain rfl := Except.ok.inj h
  exact ⟨members, found, hs, rfl, rfl⟩

theorem strategies_eq_ok {members : List Value} {found : Diagnostic}
    (h : strategies i = .ok (members, found)) :
    found.IsRemark ∧ ((truthy? "strategies" i.config = none ∧ members = [.str "jwt"] ∧
        found.message = "Using default JWT authentication strategy") ∨
      ∃ v, truthy? "strategies" i.config = some v ∧ members? v = some members ∧
        found.message = "Configured auth strategies: " ++
          Value.commaSeparated (members.map Value.plain)) := by
  unfold strategies at h
  split at h
  · obtain ⟨rfl, rfl⟩ := Prod.mk.inj (Except.ok.inj h)
    exact ⟨⟨by simp [note], rfl⟩, .inl ⟨‹_›, rfl, rfl⟩⟩
  · rename_i v hv
    split at h
    · obtain ⟨shown, hshown, h⟩ := bind_eq_ok h
      obtain ⟨rfl, rfl⟩ := Prod.mk.inj (Except.ok.inj h)
      obtain rfl := Value.eq_of_mapM_forDisplay hshown
      exact ⟨⟨by simp [note], rfl⟩, .inr ⟨v, hv, ‹_›, rfl⟩⟩
    · simp at h

/-- A value from JSON stands for strategies just where it has members and all of them are
strategies: no letter of a text is one. -/
theorem areStrategies_iff {v : Value} (hv : v.IsJson) (ht : v.truthy = true) :
    AreStrategies v ↔ ∃ ms, members? v = some ms ∧ ∀ m ∈ ms, m.IsOneOf authStrategies := by
  cases hv with
  | list => simp [AreStrategies, members?]
  | obj =>
    simp only [AreStrategies, members?, Option.some.injEq, exists_eq_left', List.forall_mem_map]
    simp [Value.IsOneOf]
  | str s =>
    have long : ∀ t ∈ authStrategies, ¬ t.length ≤ 2 := by decide
    refine iff_of_false id ?_
    rintro ⟨ms, hms, hall⟩
    obtain ⟨letter, hletter, hlength⟩ := Text.exists_mem_letters (by simpa [Value.truthy] using ht)
    rw [← Option.some.inj hms, List.forall_mem_map] at hall
    obtain ⟨t, hmem, heq⟩ := hall letter hletter
    obtain rfl := Value.str.inj heq
    exact long _ hmem hlength
  | _ => simp [AreStrategies, members?]

theorem forall_strategies_iff {members : List Value} {found : Diagnostic}
    (hconfig : ∀ e ∈ i.config, e.2.IsJson) (h : strategies i = .ok (members, found)) :
    (∀ m ∈ members, m.IsOneOf authStrategies) ↔
      ∀ v, truthy? "strategies" i.config = some v → AreStrategies v := by
  obtain ⟨-, ⟨hnone, rfl, -⟩ | ⟨v, hv, hmembers, -⟩⟩ := strategies_eq_ok h
  · simp [hnone, Value.IsOneOf, authStrategies]
  · have hiff := areStrategies_iff (isJson_of_truthy? hconfig hv) (truthy_of_truthy? hv)
    simp [hv, hiff, hmembers]

theorem fileUpload_eq_ok (h : fileUpload i = .ok o) : (∀ d ∈ o.notes, d.IsRemark) ∧
    o.value = .obj [("type", .str "file_upload"),
      ("maxFileSize", orElse "max_file_size" (.int 10485760) i.config),
      ("allowedTypes", orElse "allowed_types" (.texts ["*/*"]) i.config),
      ("destination", orElse "destination" (.str "local") i.config),
      ("virusScanning", .obj [("enabled", .bool false)])] ∧
    o.notes = [
      note "CAP014" ("File upload destination: " ++
        (orElse "destination" (.str "local") i.config).plain) "$.config.destination",
      note "CAP015" "Virus scanning disabled by default - enable for production" "$.config"] := by
  obtain ⟨shown, hshown, h⟩ := bind_eq_ok h
  obtain rfl := Except.ok.inj h
  obtain rfl := Value.eq_of_forDisplay hshown
  exact ⟨by simp [note, Diagnostic.IsRemark, Diagnostic.isError], rfl, rfl⟩

section Remarks

theorem isRemark_email : ∀ d ∈ (email i).notes, d.IsRemark := by
  simp only [email, List.forall_mem_append]
  refine ⟨⟨?_, ?_⟩, ?_⟩
  · split <;> simp [note, Diagnostic.IsRemark, Diagnostic.isError]
  · split <;> simp [note, Diagnostic.IsRemark, Diagnostic.isError]
  · split
    · split <;> simp [note, Diagnostic.IsRemark, Diagnostic.isError]
    · simp

theorem isRemark_storage : ∀ d ∈ (storage i).notes, d.IsRemark := by
  simp only [storage, List.forall_mem_append]
  constructor <;> split <;> simp [note, warning, Diagnostic.IsRemark, Diagnostic.isError]

theorem isRemark_billing : ∀ d ∈ (billing i).notes, d.IsRemark := by
  simp only [billing, List.forall_mem_append]
  constructor <;> split <;> simp [note, warning, Diagnostic.IsRemark, Diagnostic.isError]

theorem isRemark_of_ofCapability? (h : ofCapability? i = .ok (some o)) :
    ∀ d ∈ o.notes, d.IsRemark := by
  rcases ofCapability?_cases h with ⟨-, ho⟩ | ⟨-, ho⟩ | ⟨-, a, ha, ho⟩ | ⟨-, ho⟩ | ⟨-, u, hu, ho⟩ |
    ⟨-, ho⟩
  · exact Option.some.inj ho ▸ isRemark_email
  · exact Option.some.inj ho ▸ isRemark_storage
  · obtain ⟨members, found, hs, -, hnotes⟩ := auth_eq_ok ha
    rw [Option.some.inj ho, hnotes]
    simpa [note, Diagnostic.IsRemark, Diagnostic.isError] using (strategies_eq_ok hs).1
  · exact Option.some.inj ho ▸ isRemark_billing
  · exact Option.some.inj ho ▸ (fileUpload_eq_ok hu).1
  · simp at ho

end Remarks

theorem isSome_iff_overlaid {overlay : Option Overlay} (h : ofCapability? i = .ok overlay) :
    overlay.isSome = true ↔ i.capability ∈ overlaid := by
  rcases ofCapability?_cases h with
    ⟨hi, rfl⟩ | ⟨hi, rfl⟩ | ⟨hi, a, -, rfl⟩ | ⟨hi, rfl⟩ | ⟨hi, u, -, rfl⟩ | ⟨hi, rfl⟩
  all_goals simp [hi]
  all_goals decide

/-- An overlay is a mapping that says what capability it is for. -/
theorem exists_obj_of_ofCapability? (h : ofCapability? i = .ok (some o)) :
    ∃ es, o.value = .obj es ∧ Value.find? "type" es = some (.str i.capability) := by
  rcases ofCapability?_cases h with ⟨hi, ho⟩ | ⟨hi, ho⟩ | ⟨hi, a, ha, ho⟩ | ⟨hi,
    ho⟩ | ⟨hi, u, hu, ho⟩ | ⟨-, ho⟩
  · exact ⟨_, congrArg value (Option.some.inj ho), hi ▸ rfl⟩
  · exact ⟨_, congrArg value (Option.some.inj ho), hi ▸ rfl⟩
  · obtain ⟨members, found, -, hvalue, -⟩ := auth_eq_ok ha
    exact ⟨_, Option.some.inj ho ▸ hvalue, hi ▸ rfl⟩
  · exact ⟨_, congrArg value (Option.some.inj ho), hi ▸ rfl⟩
  · exact ⟨_, Option.some.inj ho ▸ (fileUpload_eq_ok hu).2.1, hi ▸ rfl⟩
  · simp at ho

section Told

theorem forall_notes_email : (∀ d ∈ (email i).notes, Text.isTorn d.message = false) ↔
    ∀ t, i.provider = some t → Text.isTorn t = false := by
  have hsender : ∀ d ∈ (if (truthy? "from_email" i.config).isSome then
      [note "CAP001" "Configured default sender from intent config" "$.config.from_email"]
      else [note "CAP001" "No default sender configured - using environment defaults" "$.config"]),
      Text.isTorn d.message = false := by
    split <;> simp +decide
  have hevents : ∀ d ∈ (if (webhook? i).isSome then
      [note "CAP002" "Inferred webhook configuration from endpoint" "$.endpoints"] else []),
      Text.isTorn d.message = false := by
    split <;> simp +decide
  simp only [email, List.forall_mem_append]
  rw [and_iff_right ⟨hsender, hevents⟩]
  cases i.provider with
  | none => simp
  | some p =>
    by_cases hp : p = "resend"
    · simp +decide [hp]
    · simp +decide [hp, note]

theorem whole_storage : ∀ d ∈ (storage i).notes, Text.isTorn d.message = false := by
  simp only [storage, List.forall_mem_append]
  constructor <;> split <;> simp +decide [note]

theorem whole_billing : ∀ d ∈ (billing i).notes, Text.isTorn d.message = false := by
  simp only [billing, List.forall_mem_append]
  constructor <;> split <;> simp +decide [note]

theorem whole_plain_of_isOneOf {words : List String} (hwords : ∀ t ∈ words, Text.isTorn t = false)
    {v : Value} (hv : v.IsOneOf words) : Text.isTorn v.plain = false := by
  obtain ⟨t, ht, rfl⟩ := hv
  exact hwords t ht

theorem whole_auth (hi : i.Sound) (hfits : Fits i) (hkind : i.capability = "auth")
    (h : auth i = .ok o) : ∀ d ∈ o.notes, Text.isTorn d.message = false := by
  obtain ⟨members, found, hs, -, hnotes⟩ := auth_eq_ok h
  have hmembers : ∀ m ∈ members, m.IsOneOf authStrategies :=
    (forall_strategies_iff hi.config_json hs).mpr (hfits.auth hkind)
  have hfound : Text.isTorn found.message = false := by
    obtain ⟨-, ⟨-, -, hmessage⟩ | ⟨v, -, -, hmessage⟩⟩ := strategies_eq_ok hs
    · rw [hmessage]
      decide
    · have hlisted : Text.isTorn (Value.commaSeparated (members.map Value.plain)) = false := by
        refine Text.isTorn_intercalate (by decide) ?_
        rw [List.forall_mem_map]
        exact fun m hm => whole_plain_of_isOneOf (by decide) (hmembers m hm)
      simp +decide [hmessage, hlisted]
  simp +decide [hnotes, hfound, note]

theorem whole_fileUpload (hfits : Fits i) (hkind : i.capability = "file_upload")
    (h : fileUpload i = .ok o) : ∀ d ∈ o.notes, Text.isTorn d.message = false := by
  have hdestination : Text.isTorn (orElse "destination" (.str "local") i.config).plain = false := by
    refine (orElse_iff (p := fun v => Text.isTorn v.plain = false) (by decide)).mpr fun v hv => ?_
    exact whole_plain_of_isOneOf (by decide) ((hfits.uploads hkind).destination v hv)
  simp +decide [(fileUpload_eq_ok h).2.2, note, hdestination]

/-- Of a capability that fits, all can be told unless it is for emails and its provider has halves
of pairs. -/
theorem forall_notes_iff (hi : i.Sound) (hfits : Fits i) (h : ofCapability? i = .ok (some o)) :
    (∀ d ∈ o.notes, Text.isTorn d.message = false) ↔
      (i.capability = "email" → ∀ t, i.provider = some t → Text.isTorn t = false) := by
  rcases ofCapability?_cases h with ⟨hkind, ho⟩ | ⟨hkind, ho⟩ | ⟨hkind, a, ha, ho⟩ | ⟨hkind, ho⟩ |
    ⟨hkind, u, hu, ho⟩ | ⟨-, ho⟩
  · obtain rfl := Option.some.inj ho
    simp only [hkind, forall_notes_email, true_imp_iff]
  · obtain rfl := Option.some.inj ho
    exact iff_of_true whole_storage (by simp [hkind])
  · obtain rfl := Option.some.inj ho
    exact iff_of_true (whole_auth hi hfits hkind ha) (by simp [hkind])
  · obtain rfl := Option.some.inj ho
    exact iff_of_true whole_billing (by simp [hkind])
  · obtain rfl := Option.some.inj ho
    exact iff_of_true (whole_fileUpload hfits hkind hu) (by simp [hkind])
  · simp at ho

end Told

/-- An overlay fits the schema just where what its intent says of it does. -/
theorem decides_ofCapability? (hi : i.Sound) {overlay : Option Overlay}
    (h : ofCapability? i = .ok overlay) :
    DecidesAt Ir.schema l (.optional Ir.overlay) overlay.isNone
      (overlay.map (·.value)) (Fits i) := by
  have present : ∀ {o : Overlay} {p : Prop}, overlay = some o →
      Decides (o.value.checker Ir.schema l Ir.overlay) p → (p ↔ Fits i) →
      DecidesAt Ir.schema l (.optional Ir.overlay) overlay.isNone
        (overlay.map (·.value)) (Fits i) := by
    rintro o p rfl hdecides hp
    obtain ⟨es, hvalue, -⟩ := exists_obj_of_ofCapability? h
    have hnull : o.value ≠ .null := by simp [hvalue]
    rw [Option.map_some, decidesAt_some, checker_optional hnull]
    exact hdecides.congr hp
  rcases ofCapability?_cases h with ⟨hkind, ho⟩ | ⟨hkind, ho⟩ | ⟨hkind, a, ha, ho⟩ | ⟨hkind, ho⟩ |
    ⟨hkind, u, hu, ho⟩ | ⟨hkind, rfl⟩
  · exact present ho (decides_emailOverlay hi.config_json) (by simp [fits_iff, hkind])
  · exact present ho (decides_storage hi.buckets_json) (by simp [fits_iff, hkind])
  · obtain ⟨members, found, hs, hvalue, -⟩ := auth_eq_ok ha
    refine present ho (hvalue ▸ decides_auth) ?_
    simpa [fits_iff, hkind] using forall_strategies_iff hi.config_json hs
  · exact present ho decides_billing (by simp [fits_iff, hkind])
  · exact present ho ((fileUpload_eq_ok hu).2.1 ▸ decides_uploads hi.config_json)
      (by simp [fits_iff, hkind])
  · simp only [overlaid, List.mem_cons, List.not_mem_nil, or_false, not_or] at hkind
    simp [fits_iff, hkind]

end Resolved.Overlay

namespace Draft

open Resolved Resolved.Overlay

variable {c : Context} {now : DateTime} {i : AddCapability} {d : Draft} {overlay : Option Overlay}
  {l : Nat}

/-- What stands in an envelope for a capability with its overlay. -/
def capabilityValue (i : AddCapability) (overlay : Option Overlay) : Value :=
  .ofPresent [("type", some (.str i.capability)), ("framework", some (.str i.framework)),
    ("provider", i.provider.map .str), ("entity", i.entity.map .str),
    ("config", if i.config.isEmpty then none else some (.obj i.config)),
    ("endpoints", Value.someList (i.endpoints.map capabilityEndpoint)),
    ("overlay", overlay.map (·.value))]

/-- A capability is drafted with its overlay, and whatever is reported of it is no error. -/
theorem addCapability_eq_ok (h : addCapability c i = .ok d) :
    ∃ overlay, ofCapability? i = .ok overlay ∧ d.model = .addCapability ∧ d.kind = "AddCapability" ∧
      d.body = [("capability", capabilityValue i overlay)] ∧ d.misuse = none ∧
      d.diagnostics = mention c i.entity ++ ((overlay.map (·.notes)).getD []) ++
        [overlayNote i overlay] := by
  simp only [addCapability] at h
  split at h
  · exact absurd h throw_ne_ok
  · obtain ⟨overlay, ho, h⟩ := bind_eq_ok h
    obtain rfl := Except.ok.inj h
    exact ⟨overlay, ho, rfl, rfl, rfl, rfl, rfl⟩

theorem isOwn_addCapability (h : addCapability c i = .ok d) :
    ∀ x ∈ d.diagnostics, x.IsOwn ∧ x.isError = false := by
  obtain ⟨overlay, ho, -, -, -, -, hreported⟩ := addCapability_eq_ok h
  rw [hreported]
  simp only [List.forall_mem_append]
  have noted : ∀ o, overlay = some o → ∀ x ∈ o.notes, x.IsOwn ∧ x.isError = false := by
    rintro o rfl x hx
    obtain ⟨hmessage, hnoError⟩ := isRemark_of_ofCapability? ho x hx
    have named : ∀ code ∈ codes, Text.IsProper code ∧ code ≠ "IR099" := by decide
    obtain ⟨hcode, hunlike⟩ := named _ (coded_ofCapability? ho x hx)
    exact ⟨⟨hcode, hunlike, hmessage⟩, hnoError⟩
  refine ⟨⟨fun x hx => ⟨isOwn_mention _ x hx, isError_mention hx⟩, ?_⟩, ?_⟩
  · cases overlay with
    | none => simp
    | some o => exact noted o rfl
  · cases overlay <;> simp +decide [overlayNote, note, Diagnostic.IsOwn, Diagnostic.isError]

/-- An entity is mentioned with its name where it may not exist. -/
theorem forall_mention_iff {entity : Option String} :
    (∀ x ∈ mention c entity, Text.isTorn x.message = false) ↔
      ∀ e, entity = some e → c.mayExist e = true ∨ Text.isTorn e = false := by
  cases entity with
  | none => simp [mention]
  | some e =>
    rw [mention, lookUp]
    cases he : c.mayExist e <;> simp +decide [he]

/-- What would be told about a capability that fits has no halves of pairs: neither the provider of
one for emails has, nor an entity that may not exist. -/
def IsTold (c : Context) (i : AddCapability) : Prop :=
  (∀ e, i.entity = some e → c.mayExist e = true ∨ Text.isTorn e = false) ∧
    (i.capability = "email" → ∀ t, i.provider = some t → Text.isTorn t = false)

theorem misuse?_addCapability_eq_none (hi : i.Sound) (hfits : Fits i)
    (h : addCapability c i = .ok d) : d.misuse? = none ↔ IsTold c i := by
  obtain ⟨overlay, ho, -, -, -, hmisuse, hreported⟩ := addCapability_eq_ok h
  have hcapability : Text.isTorn i.capability = false := by
    have whole : ∀ t ∈ ["auth", "email", "storage", "billing", "file_upload", "file_stream", "sse",
      "websocket"], Text.isTorn t = false := by decide
    exact whole _ hi.capability_mem
  have hnote : Text.isTorn (overlayNote i overlay).message = false := by
    cases overlay <;> simp [overlayNote, note, hcapability] <;> decide
  have hnotes : (∀ x ∈ (overlay.map (·.notes)).getD [], Text.isTorn x.message = false) ↔
      (i.capability = "email" → ∀ t, i.provider = some t → Text.isTorn t = false) := by
    cases overlay with
    | none =>
      have hother : i.capability ∉ overlaid := fun hmem =>
        absurd ((isSome_iff_overlaid ho).mpr hmem) (by simp)
      simp only [Option.map_none, Option.getD_none, List.not_mem_nil, false_implies,
        implies_true, true_iff]
      rintro hemail
      exact absurd (hemail ▸ by decide) hother
    | some o => exact forall_notes_iff hi hfits ho
  rw [misuse?_eq_none, hreported]
  simp only [List.forall_mem_append, List.forall_mem_singleton, hmisuse, hnote, hnotes,
    forall_mention_iff, true_and, and_true]
  rfl

theorem fits_capabilityEndpoint {e : Intent.CapabilityEndpoint} (h : e.Sound) :
    Finds ((capabilityEndpoint e).checker Ir.schema l (.model .capabilityEndpoint)) [] := by
  refine fits_present (Nat.zero_le _) rfl rfl ?_
  simpa [Ir.schema, Ir.capabilityEndpoint, Ir.httpMethod] using
    ⟨by simpa using h.method_mem, fun t ht => textFault?_formed.mp (h.path_rooted t ht)⟩

/-- A capability fits the schema just where its overlay does. -/
theorem decides_capability (hi : i.Sound) (ho : ofCapability? i = .ok overlay) :
    Decides ((capabilityValue i overlay).checker Ir.schema l (.model .capability)) (Fits i) := by
  have endpoints : i.endpoints ≠ [] → Finds ((Value.list
      (i.endpoints.map capabilityEndpoint)).checker
      Ir.schema l (.list 0 (.model .capabilityEndpoint))) [] := by
    intro _
    refine fits_list (Nat.zero_le _) ?_
    rw [List.forall_mem_map]
    exact fun e he => fits_capabilityEndpoint (hi.endpoints_sound e he)
  have config : Finds ((Value.obj i.config).checker Ir.schema l .mapping) [] :=
    ⟨_, checker_mapping_obj _ _⟩
  refine (decides_present (p := fun key => key = "overlay" → Fits i) (Nat.zero_le _) rfl
    rfl ?_).congr ?_
  · simp [Ir.schema, Ir.capability]
    refine ⟨fits_oneOf.mpr hi.capability_mem, hi.framework_proper, ?_, endpoints,
      decides_ofCapability? hi ho⟩
    split
    · exact ⟨rfl, rfl⟩
    · exact fits_optional config
  · simp [Ir.schema, Ir.capability]

/-- The envelope of a new capability fits just where its overlay does. -/
theorem decides_addCapability (hc : c.IsValid) (ht : now.IsValid) (hi : i.Sound)
    (h : addCapability c i = .ok d) (hm : d.misuse? = none) :
    Decides ((d.payload c now).checker Ir.schema levelLimit (.model d.model)) (Fits i) := by
  obtain ⟨overlay, ho, hmodel, hkind, hbody, -, -⟩ := addCapability_eq_ok h
  exact decides_payload (k := .addCapability) hmodel hkind hc ht
    (fun x hx => (isOwn_addCapability h x hx).1) (misuse?_eq_none.mp hm).2 rfl hbody
    (decides_capability hi ho)

end Draft
end SchemaIntents
