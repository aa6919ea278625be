import SchemaIntents.Proofs.Resolved.Entity
import SchemaIntents.Proofs.Resolved.Steps
import SchemaIntents.Proofs.Shape.Checking
import SchemaIntents.Resolution

/-! The codes under which drafts report. Each kind of finding keeps to codes of its own, so that a
code says where a diagnostic comes from. -/
namespace SchemaIntents

/-- All diagnostics of a list have one of some codes. -/
def Coded (codes : List String) (ds : List Diagnostic) : Prop :=
  ∀ d ∈ ds, d.code ∈ codes

section Coded

variable {codes codes' : List String} {d : Diagnostic} {ds ds' : List Diagnostic}

@[simp] theorem coded_nil : Coded codes [] := by
  simp [Coded]

@[simp] theorem coded_cons : Coded codes (d :: ds) ↔ d.code ∈ codes ∧ Coded codes ds := by
  simp [Coded]

@[simp] theorem coded_append : Coded codes (ds ++ ds') ↔ Coded codes ds ∧ Coded codes ds' := by
  simp [Coded, or_imp, forall_and]

theorem coded_singleton {code : String} (h : code ∈ codes) (severity : Severity)
    (message path : String) : Coded codes [⟨code, severity, message, path⟩] :=
  coded_cons.mpr ⟨h, coded_nil⟩

theorem Coded.mono (h : Coded codes ds) (hc : codes ⊆ codes') : Coded codes' ds :=
  fun d hd => hc (h d hd)

theorem Coded.filter_eq_nil (h : Coded codes ds) (code : String) (hc : code ∉ codes) :
    ds.filter (·.code == code) = [] := by
  rw [List.filter_eq_nil_iff]
  intro d hd he
  exact hc (eq_of_beq he ▸ h d hd)

end Coded

namespace Resolved

open Intent (AuthoredField)

theorem coded_reservedWarning (label name path : String) :
    Coded ["IR011"] (reservedWarning label name path) := by
  unfold reservedWarning
  split <;> simp

/-- The codes about fields that are resolved. -/
def fieldCodes : List String :=
  ["IR011", "IR020", "IR021"]

theorem coded_resolveFrom (checks : FieldChecks) (owner root : String) (seen : List String)
    (position : Nat) (fs : List AuthoredField) :
    Coded fieldCodes (resolveFrom checks owner root seen position fs).1 := by
  intro d hd
  cases fieldReport_of_mem_resolveFrom hd <;> simp [duplicateError, typeError, fieldCodes]

theorem coded_primaryNote (authored : List AuthoredField) (fields : List Field) :
    Coded ["IR001"] (primaryNote authored fields) := by
  unfold primaryNote
  split <;> simp

theorem coded_primaryError (keys : List String) : Coded ["IR022"] (primaryError keys) := by
  unfold primaryError
  split <;> simp

theorem coded_unknownFields (known : List String) (path : String) (what : String → String)
    (names : List String) : Coded ["IR023"] (unknownFields known path what names) := by
  intro d hd
  obtain ⟨n, -, rfl⟩ := List.mem_map.mp hd
  exact List.mem_singleton.mpr rfl

theorem coded_referenceErrors (i : Intent.AddEntity) : Coded ["IR023"] (referenceErrors i) := by
  have all : ∀ {α : Type} (as : List α) (f : α → List Diagnostic),
      (∀ a, Coded ["IR023"] (f a)) → Coded ["IR023"] (as.flatMap f) := by
    intro α as f hf d hd
    obtain ⟨a, -, ha⟩ := List.mem_flatMap.mp hd
    exact hf a d ha
  have tenant : Coded ["IR023"] (tenantError (i.fields.map (·.name)) i.tenantColumn) := by
    unfold tenantError
    split
    · exact coded_nil
    · exact coded_unknownFields _ _ _ _
  have seed : Coded ["IR023"] (seedErrors (i.fields.map (·.name)) i.seed) := by
    unfold seedErrors
    split
    · exact coded_nil
    · exact all _ _ fun name => coded_unknownFields _ _ _ _
  simp only [referenceErrors, coded_append]
  exact ⟨⟨⟨all _ _ fun g => coded_unknownFields _ _ _ _, all _ _ fun x =>
    coded_unknownFields _ _ _ _⟩, tenant⟩, seed⟩

theorem coded_constraints (auto : Bool) (i : Intent.AddEntity) (fields : List Field) :
    Coded ["IR003"] (constraints auto i fields).1 := by
  intro d hd
  obtain ⟨name, -, rfl⟩ := mem_constraints_fst hd
  exact List.mem_singleton.mpr rfl

namespace Overlay

/-- The codes about the overlays of capabilities. -/
def codes : List String :=
  ["CAP000", "CAP001", "CAP002", "CAP003", "CAP004", "CAP005", "CAP006", "CAP007",
    "CAP008", "CAP009", "CAP010", "CAP011", "CAP012", "CAP013", "CAP014", "CAP015", "CAP100"]

variable {i : Intent.AddCapability} {o : Overlay}

theorem coded_email : Coded codes (email i).notes := by
  simp only [email, coded_append]
  refine ⟨⟨?_, ?_⟩, ?_⟩
  · split <;> simp [note, codes]
  · split <;> simp [note, codes]
  · split
    · split <;> simp [note, codes]
    · exact coded_nil

theorem coded_storage : Coded codes (storage i).notes := by
  simp only [storage, coded_append]
  constructor <;> split <;> simp [note, warning, codes]

theorem coded_billing : Coded codes (billing i).notes := by
  simp only [billing, coded_append]
  constructor <;> split <;> simp [note, warning, codes]

theorem coded_auth (h : auth i = .ok o) : Coded codes o.notes := by
  obtain ⟨⟨members, found⟩, hs, h⟩ := bind_eq_ok h
  obtain rfl := Except.ok.inj h
  have hfound : found.code = "CAP008" := by
    unfold strategies at hs
    split at hs
    · obtain ⟨-, rfl⟩ := Prod.mk.inj (Except.ok.inj hs)
      rfl
    · split at hs
      · obtain ⟨shown, -, hs⟩ := bind_eq_ok hs
        obtain ⟨-, rfl⟩ := Prod.mk.inj (Except.ok.inj hs)
        rfl
      · simp at hs
  simp [hfound, note, codes]

theorem coded_fileUpload (h : fileUpload i = .ok o) : Coded codes o.notes := by
  obtain ⟨shown, -, h⟩ := bind_eq_ok h
  obtain rfl := Except.ok.inj h
  simp [note, codes]

theorem coded_ofCapability? (h : ofCapability? i = .ok (some o)) : Coded codes o.notes := by
  have of_map : ∀ {x : Except Misuse Overlay}, x.map some = .ok (some o) → x = .ok o := by
    intro x hx
    cases x with
    | error m => simp [Except.map] at hx
    | ok a => simpa [Except.map] using hx
  unfold ofCapability? at h
  split at h
  · obtain rfl := Option.some.inj (Except.ok.inj h)
    exact coded_email
  split at h
  · obtain rfl := Option.some.inj (Except.ok.inj h)
    exact coded_storage
  split at h
  · exact coded_auth (of_map h)
  split at h
  · obtain rfl := Option.some.inj (Except.ok.inj h)
    exact coded_billing
  split at h
  · exact coded_fileUpload (of_map h)
  · simp at h

end Overlay

end Resolved

end SchemaIntents
