import SchemaIntents.Proofs.Draft.Lookups
import SchemaIntents.Proofs.Draft.Moments
import SchemaIntents.Proofs.Resolution.Misuse

/-! What an intent comes to with some known entities, compared with what it comes to with others.
Only the entities that it speaks of count; and where every entity may exist it is not refused for
them, and says the same. -/
namespace SchemaIntents

open Intent (Kind Submission)
open Shape

namespace Draft

variable {k : Kind} {c : Context} {p : Intent.Part} {d : Draft} {now now' : DateTime} {ir : Ir.Part}

/-- An envelope that is made with known entities is made where every entity may exist too, with the
same content, and without warnings that entities are missing. -/
theorem settle_untracked (ht : now.IsValid) (ht' : now'.IsValid)
    (hd : ofPart k (c.withKnown none) p = .ok d)
    (h : (d.reporting (lookUps k c p)).settle c now = .ok ir) :
    ∃ ir', d.settle (c.withKnown none) now' = .ok ir' ∧ ir'.content = ir.content ∧
      ir'.diagnostics = ir.diagnostics.filter (!·.warnsOfMissing) := by
  have hm := (draft_kind hd).1
  have hkeys := keys_body hd
  obtain ⟨herr, hpayload⟩ := settle_eq_ok h
  have hown : d.diagnostics.any Diagnostic.isError = false := by
    rw [reporting, List.any_append, Bool.or_eq_false_iff] at herr
    exact herr.2
  have hreports := checker_diagnostics (d := d.reporting (lookUps k c p)) hm hkeys h
  rw [level_envelope, Nat.sub_zero] at hreports
  obtain ⟨is, his⟩ := fits_subset (d.diagnostics.map Diagnostic.toValue) (Nat.zero_le _)
    (List.map_subset _ (List.subset_append_right _ _)) ⟨_, hreports⟩
  have halter := payload_alter d.diagnostics (d := d.reporting (lookUps k c p)) (c := c)
    (g := fun f i =>
      if f.name = "provenance" then i.alter Ir.schema Ir.Part.timeless
      else if f.name = "diagnostics" then .list []
      else i) hm hkeys ht ht'
    (fun f hf => funext fun i => if_pos hf) (fun f hf => by
      rw [hreports, his]
      simp [Except.map, hf])
  rcases map_eq_map halter with ⟨issues, hx, -⟩ | ⟨ir₁, ir', hx, hy, hcontent⟩
  · exact absurd (hx.symm.trans hpayload) (by simp)
  · obtain rfl := Except.ok.inj (hx.symm.trans hpayload)
    have hsettle : d.settle (c.withKnown none) now' = .ok ir' := by
      rw [settle, if_neg (by simp [hown]), Value.check_eq_checker]
      change (d.payload (c.withKnown none) now').checker Ir.schema levelLimit (.model d.model) =
        .ok ir' at hy
      rw [hy]
    refine ⟨ir', hsettle, hcontent.symm, ?_⟩
    rw [diagnostics_of_settle hm hkeys hsettle,
      diagnostics_of_settle (d := d.reporting (lookUps k c p)) hm hkeys h]
    exact (filter_reported hd herr).symm

/-- In an intent with something that cannot be used where every entity may exist, something cannot
be used with known entities either: they only add to what is reported. -/
theorem exists_unusable_of_untracked {m : Misuse} (h : Unusable (c.withKnown none) k p m) :
    ∃ m', Unusable c k p m' := by
  cases h with
  | capability ho => exact ⟨m, .capability ho⟩
  | relation hr => exact ⟨m, .relation hr⟩
  | field hl hfield => exact ⟨m, .field hl hfield⟩
  | mention hx => simp at hx
  | @report _ _ d x hd hx htorn =>
    cases hlooked : Diagnostic.firstMisuse? (lookUps k c p) with
    | none =>
      have hreported : ofPart k c p = .ok (d.reporting (lookUps k c p)) := by
        rw [ofPart_eq hlooked, hd]
        rfl
      exact ⟨.torn, .report hreported (List.mem_append_right _ hx) htorn⟩
    | some m' =>
      obtain ⟨⟨x', hx', htorn'⟩, -⟩ := Diagnostic.torn_of_firstMisuse? hlooked
      cases hd' : ofPart k c p with
      | error m'' => exact ⟨m'', unusable_of_error hd'⟩
      | ok d' =>
        obtain ⟨own, hown⟩ := exists_diagnostics_eq hd'
        exact ⟨.torn, .report hd' (hown ▸ List.mem_append_left _ hx') htorn'⟩

end Draft

namespace Resolution

variable {c : Context} {now now' : DateTime} {s : Submission} {ir : Ir.Part}

/-- The entities that an intent speaks of: none if it is of no kind or does not fit its model. -/
def entityNames (s : Submission) : List String :=
  match kind? s with
  | none => []
  | some k =>
    match s.read k.model with
    | .error _ => []
    | .ok p => Draft.entityNames k p

/-- At whatever moments and with whatever other entities an intent is resolved, it comes to the same
envelope apart from the moment, or is refused for the same, as long as of the entities that it
speaks of the same are known. -/
theorem of_undated {known known' : Option (List String)} (ht : now.IsValid) (ht' : now'.IsValid)
    (h : ∀ n ∈ entityNames s, known.map (·.contains n) = known'.map (·.contains n)) :
    (Resolution.of (c.withKnown known) now s).result.map Ir.Part.undated =
      (Resolution.of (c.withKnown known') now' s).result.map Ir.Part.undated := by
  unfold Resolution.of
  unfold entityNames at h
  cases hk : kind? s with
  | none => rfl
  | some k =>
    simp only [hk] at h
    simp only [Run.after, ofKind]
    cases hp : s.read k.model with
    | error issues => rfl
    | ok p =>
      simp only [hp] at h
      dsimp only
      rw [Draft.ofPart_congr h]
      cases hd : Draft.ofPart k (c.withKnown known') p with
      | error m => rfl
      | ok d =>
        dsimp only
        cases d.misuse? with
        | some m => rfl
        | none =>
          have hsettle := Draft.settle_undated (c := c) (draft_kind hd).1
            (Draft.keys_body hd) ht ht'
          change (d.settle (c.withKnown known) now).map Ir.Part.undated =
            (d.settle (c.withKnown known') now').map Ir.Part.undated at hsettle
          simp only [Run.map, Draft.finish]
          rcases map_eq_map hsettle with ⟨r, hx, hy⟩ | ⟨ir, ir', hx, hy, hir⟩
          · rw [hx, hy]
          · rw [hx, hy]
            exact congrArg Except.ok hir

/-- An intent that is accepted with known entities is accepted where every entity may exist too,
with the same content, and without warnings that entities are missing. -/
theorem of_untracked (ht : now.IsValid) (ht' : now'.IsValid)
    (h : (Resolution.of c now s).result = .ok ir) :
    ∃ ir', (Resolution.of (c.withKnown none) now' s).result = .ok ir' ∧ ir'.content = ir.content ∧
      ir'.diagnostics = ir.diagnostics.filter (!·.warnsOfMissing) := by
  obtain ⟨k, hk, h⟩ := of_eq_ok h
  obtain ⟨p, tracked, hp, htracked, hmisuse, hsettle⟩ := ofKind_eq_ok h
  obtain ⟨own, hown⟩ := Draft.exists_diagnostics_eq htracked
  obtain ⟨hnone, hwhole⟩ := Draft.misuse?_eq_none.mp hmisuse
  rw [hown] at hwhole
  have hlooked : Diagnostic.firstMisuse? (Draft.lookUps k c p) = none :=
    Diagnostic.firstMisuse?_eq_none.mpr fun x hx => hwhole x (List.mem_append_left _ hx)
  rw [Draft.ofPart_eq hlooked] at htracked
  cases hd : Draft.ofPart k (c.withKnown none) p with
  | error m => simp [hd, Except.map] at htracked
  | ok d =>
    rw [hd] at htracked
    obtain rfl := Except.ok.inj htracked
    obtain ⟨ir', hir', hsame⟩ := Draft.settle_untracked ht ht' hd hsettle
    have hnone' : d.misuse? = none := by
      rw [Draft.misuse?_eq_none] at hmisuse ⊢
      exact ⟨hmisuse.1, fun x hx => hmisuse.2 x (List.mem_append_right _ hx)⟩
    refine ⟨ir', ?_, hsame⟩
    simp [Resolution.of, hk, Run.after, ofKind, hp, hd, hnone', Run.map, Draft.finish, hir']

variable (now') in
/-- What cannot be used where every entity may exist cannot be used with known entities either. -/
theorem misused_of_untracked {m : Misuse}
    (h : (Resolution.of (c.withKnown none) now s).result = .error (.misused m)) :
    ∃ m', (Resolution.of c now' s).result = .error (.misused m') := by
  rw [exists_misused_of_iff]
  cases unusable_of_misused h with
  | kind hk hm => exact ⟨m, .kind hk hm⟩
  | @part k p m hk hp hu =>
    suffices ∃ m', Draft.Unusable c k p m' by
      obtain ⟨m', hm'⟩ := this
      exact ⟨m', .part hk hp hm'⟩
    exact Draft.exists_unusable_of_untracked hu

end Resolution

end SchemaIntents
