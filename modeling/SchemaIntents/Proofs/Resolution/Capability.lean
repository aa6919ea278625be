import SchemaIntents.Proofs.Draft.Capability
import SchemaIntents.Proofs.Resolution.Unfit

/-! New capabilities come to envelopes just where all that counts for their overlays can be used,
and their envelopes have the overlays of their capabilities. -/
namespace SchemaIntents

open Intent (AddCapability Kind)
open Resolved Resolved.Overlay
open Shape

variable {c : Context} {now : DateTime} {i : AddCapability} {l : Nat}

namespace Resolved.Overlay

/-- What of a capability cannot be used fits no overlay. -/
theorem not_fits_of_unusable {m : Misuse} (hi : i.Sound) (h : Unusable i m) : ¬ Fits i := by
  intro hfits
  have members : i.capability = "auth" → ∀ w, truthy? "strategies" i.config = some w →
      ∃ ms, members? w = some ms ∧ ∀ u ∈ ms, u.IsOneOf authStrategies := fun hkind w hw =>
    (areStrategies_iff (isJson_of_truthy? hi.config_json hw) (truthy_of_truthy? hw)).mp
      (hfits.auth hkind w hw)
  cases h with
  | strategies hkind hw hnone =>
    obtain ⟨ms, hms, -⟩ := members hkind _ hw
    simp [hnone] at hms
  | strategy hkind hw hms hu hm =>
    obtain ⟨us, hus, hall⟩ := members hkind _ hw
    obtain rfl := Option.some.inj (hms.symm.trans hus)
    obtain ⟨t, -, rfl⟩ := hall _ hu
    simp at hm
  | destination hkind hw hm =>
    obtain ⟨t, -, rfl⟩ := (hfits.uploads hkind).destination _ hw
    simp at hm

/-- An overlay is read with the type that it has. -/
theorem type_of_checker {es : List (String × Value)} {t : String} {q : Ir.Part}
    (ht : Value.find? "type" es = some (.str t))
    (h : (Value.obj es).checker Ir.schema l Ir.overlay = .ok q) :
      q.get "type" = .plain (.str t) := by
  obtain ⟨u, n, hu, hchoice, hmodel⟩ := checker_tagged h
  obtain rfl : t = u := by
    rw [show (Value.obj es).lookup? "type" = some (.str t) from ht] at hu
    exact Value.str.inj (Option.some.inj hu)
  have constant : ∀ choice ∈ [("email", Ir.Name.emailOverlay), ("storage", .storageOverlay),
      ("auth", .authOverlay), ("billing", .billingOverlay), ("file_upload", .fileUploadOverlay)],
      .constant "type" "type" choice.1 ∈ (Ir.schema choice.2).fields := by
    simp [Ir.schema, Ir.emailOverlay, Ir.storageOverlay, Ir.authOverlay, Ir.billingOverlay,
      Ir.fileUploadOverlay]
  have htype := Instance.field_of_checker (f := .constant "type" "type" t) (Ir.names_nodup _) hmodel
    (constant _ (mem_of_choice? hchoice)) ht
  obtain ⟨-, -, -, hfield⟩ := checker_oneOf_eq_ok.mp htype
  exact hfield

end Resolved.Overlay

namespace Draft

variable {d : Draft} {ir : Ir.Part}

theorem exists_entries_capability (i : AddCapability) (overlay : Option Overlay) :
    ∃ es, capabilityValue i overlay = .obj es ∧
      Value.find? "overlay" es = overlay.map (·.value) :=
  ⟨_, rfl, by simp⟩

/-- The envelope of a capability has its overlay, with its type, or none if there is none for it. -/
theorem overlay_of_settle (h : addCapability c i = .ok d) (hs : d.settle c now = .ok ir) :
    let overlay := (ir.get "capability").get "overlay"
    (i.capability ∈ overlaid ∧ overlay.get "type" = .plain (.str i.capability)) ∨
      (i.capability ∉ overlaid ∧ overlay = .plain .null) := by
  intro overlay
  obtain ⟨made, hmade, hmodel, -, hbody, -, -⟩ := addCapability_eq_ok h
  have hcapability := checker_of_settle (k := .addCapability) hmodel rfl hbody hs
  obtain ⟨es, hes, hfind⟩ := exists_entries_capability i made
  rw [hes] at hcapability
  rcases Instance.field_of_maybe "overlay" "overlay" Ir.overlay (Ir.names_nodup _) hcapability
    (by simp [Ir.schema, Ir.capability]) id with ⟨w, hw, hchecked⟩ | ⟨hnone, hnull⟩
  · obtain ⟨o, rfl, rfl⟩ := Option.map_eq_some_iff.mp (hfind.symm.trans hw)
    obtain ⟨es, hvalue, htype⟩ := exists_obj_of_ofCapability? hmade
    rw [hvalue, checker_optional (by simp)] at hchecked
    exact .inl ⟨(isSome_iff_overlaid hmade).mp rfl, type_of_checker htype hchecked⟩
  · obtain rfl := Option.map_eq_none_iff.mp (hfind.symm.trans hnone)
    exact .inr ⟨(isSome_iff_overlaid hmade).not.mp (by simp), hnull⟩

end Draft

namespace Resolution

variable {v : Value} {p : Intent.Part}

/-- A new capability comes to an envelope just where all that counts for its overlay can be used and
neither the provider of one for emails nor an entity that may not exist has halves of pairs, and
then its envelope has the overlay, with the capability for its type; some capabilities have none. -/
theorem ofKind_eq_ok_iff_fits (hc : c.IsValid) (ht : now.IsValid) (hv : v.IsJson)
    (hp : Intent.parse Kind.addCapability.model v = .ok p) :
    let i := AddCapability.ofPart p
    let result := (ofKind .addCapability c now (.plain v)).result
    ((∃ ir, result = .ok ir) ↔ Fits i ∧
      (∀ e, i.entity = some e → c.mayExist e = true ∨ Text.isTorn e = false) ∧
      (i.capability = "email" → ∀ t, i.provider = some t → Text.isTorn t = false)) ∧
      ∀ ir, result = .ok ir →
        let overlay := (ir.get "capability").get "overlay"
        (i.capability ∈ overlaid ∧ overlay.get "type" = .plain (.str i.capability)) ∨
          (i.capability ∉ overlaid ∧ overlay = .plain .null) := by
  intro i result
  have hi : i.Sound := AddCapability.sound_of_parse hv hp
  have hread : Intent.Submission.read Kind.addCapability.model (.plain v) = .ok p := hp
  cases hd : Draft.addCapability c i with
  | error m =>
    have hmisused : result = .error (.misused m) := by
      simp only [result, ofKind, hread]
      rw [show Draft.ofPart .addCapability c p = .error m from hd]
    simp only [hmisused, reduceCtorEq, exists_false, false_iff, false_implies,
      implies_true, and_true]
    rintro ⟨hfits, hentity, -⟩
    rcases Draft.addCapability_eq_error hd with hmention | hoverlay
    · obtain ⟨⟨x, hx, htorn⟩, -⟩ := Diagnostic.torn_of_firstMisuse? hmention
      simp [Draft.forall_mention_iff.mpr hentity x hx] at htorn
    · exact not_fits_of_unusable hi (unusable_of_ofCapability? hoverlay) hfits
  | ok d =>
    cases hm : d.misuse? with
    | some m =>
      have hmisused : result = .error (.misused m) := ofKind_of_misuse hread hd hm
      simp only [hmisused, reduceCtorEq, exists_false, false_iff, false_implies,
        implies_true, and_true]
      rintro ⟨hfits, htold⟩
      cases hm.symm.trans ((Draft.misuse?_addCapability_eq_none hi hfits hd).mpr htold)
    | none =>
      have hresult : result = (d.settle c now).mapError Refusal.rejected :=
        ofKind_of_ofPart hread hd hm
      have herr : d.diagnostics.any Diagnostic.isError = false := by
        simpa using fun x hx => (Draft.isOwn_addCapability hd x hx).2
      rcases settle_of_decides herr (Draft.decides_addCapability hc ht hi hd hm) with
        ⟨hfits, ir, hir⟩ | ⟨hunfit, r, hr, -⟩
      · rw [hresult, hir]
        have htold := (Draft.misuse?_addCapability_eq_none hi hfits hd).mp hm
        refine ⟨iff_of_true ⟨ir, rfl⟩ ⟨hfits, htold⟩, fun ir' h => ?_⟩
        obtain rfl : ir = ir' := Except.ok.inj h
        exact Draft.overlay_of_settle hd hir
      · rw [hresult, hr]
        refine ⟨iff_of_false ?_ fun h => hunfit h.1, ?_⟩
        · rintro ⟨ir, h⟩
          simp [Except.mapError] at h
        · intro ir h
          simp [Except.mapError] at h

/-- An email service with a sender. -/
def mailer : Value := .obj [
  ("kind", .str "add_capability"), ("scope", .str "capability"), ("capability", .str "email"),
  ("framework", .str "express"), ("config", .obj [("from_email", .str "news@example.org")])]

/-- Uploads to a destination that there is not. -/
def attic : Value := .obj [
  ("kind", .str "add_capability"), ("scope", .str "capability"), ("capability", .str "file_upload"),
  ("framework", .str "express"), ("config", .obj [("destination", .str "attic")])]

theorem ofKind_eq_ok_iff_fits_mailer :
    let c : Context := ⟨"intent", "project", "0.1.0", none, none, ⟨true, .snake⟩⟩
    let now : DateTime := ⟨⟨2024, 1, 2⟩, 12, 0, 0, 0, none⟩
    (∃ ir, (ofKind .addCapability c now (.plain mailer)).result = .ok ir ∧
      ((ir.get "capability").get "overlay").get "type" = .plain (.str "email")) ∧
    ¬ ∃ ir, (ofKind .addCapability c now (.plain attic)).result = .ok ir := by
  intro c now
  have hc : c.IsValid := by decide
  have ht : now.IsValid := by decide
  have hmailer : (Intent.parse Kind.addCapability.model mailer).toOption.map (fun p =>
      let i := AddCapability.ofPart p
      (i.capability, i.config, i.entity, i.provider)) =
        some ("email", [("from_email", .str "news@example.org")], none, none) := rfl
  have hattic : (Intent.parse Kind.addCapability.model attic).toOption.map (fun p =>
      ((AddCapability.ofPart p).capability, (AddCapability.ofPart p).config)) =
        some ("file_upload", [("destination", .str "attic")]) := rfl
  obtain ⟨p, hp, hread⟩ := Option.map_eq_some_iff.mp hmailer
  obtain ⟨q, hq, hread'⟩ := Option.map_eq_some_iff.mp hattic
  simp only [Prod.mk.injEq] at hread
  obtain ⟨hkind, hconfig, hentity, hprovider⟩ := hread
  obtain ⟨hkind', hconfig'⟩ := Prod.mk.inj hread'
  obtain ⟨hmade, htyped⟩ :=
    ofKind_eq_ok_iff_fits hc ht (by simp [mailer]) (eq_ok_of_toOption hp)
  obtain ⟨hmade', -⟩ := ofKind_eq_ok_iff_fits hc ht (by simp [attic]) (eq_ok_of_toOption hq)
  have hfits : Fits (.ofPart p) := by
    have hsender : HasSender [("from_email", .str "news@example.org")] (.str "news@example.org") :=
      ⟨⟨_, rfl, by decide⟩, by simp [truthy?, Value.find?]⟩
    simpa [fits_iff, hkind, hconfig, truthy?, Value.find?, Value.truthy] using hsender
  have hunfit : ¬ Fits (.ofPart q) := by
    intro hfits
    obtain ⟨t, ht, h⟩ := (hfits.uploads hkind').destination (.str "attic") (by rw [hconfig']; rfl)
    obtain rfl := Value.str.inj h
    simp [uploadDestinations] at ht
  obtain ⟨ir, hir⟩ := hmade.mpr ⟨hfits, by simp [hentity], by simp [hprovider]⟩
  refine ⟨⟨ir, hir, ?_⟩, fun h => hunfit (hmade'.mp h).1⟩
  rcases htyped ir hir with ⟨-, htype⟩ | ⟨hno, -⟩
  · rwa [hkind] at htype
  · simp [hkind, overlaid] at hno

end Resolution

end SchemaIntents
