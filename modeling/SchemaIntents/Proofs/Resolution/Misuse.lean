import SchemaIntents.Proofs.Context.Construction
import SchemaIntents.Proofs.Intent.Faithful
import SchemaIntents.Resolution

/-! Intents that cannot be resolved at all: a value in them is used as what it cannot be, or what is
to be reported about them cannot be told. Only three places use free values: the kind, the parts of
some capabilities, and what happens on deletion. -/
namespace SchemaIntents

open Intent (AuthoredField Kind Submission)

namespace Diagnostic

variable {ds : List Diagnostic}

theorem misuse?_eq_some {d : Diagnostic} {m : Misuse} :
    d.misuse? = some m ↔ Text.isTorn d.message = true ∧ m = .torn := by
  cases h : Text.isTorn d.message <;> simp [misuse?, h, eq_comm]

theorem torn_of_firstMisuse? {m : Misuse} (h : firstMisuse? ds = some m) :
    (∃ d ∈ ds, Text.isTorn d.message = true) ∧ m = .torn := by
  obtain ⟨d, hd, hm⟩ := List.exists_of_findSome?_eq_some h
  obtain ⟨htorn, rfl⟩ := misuse?_eq_some.mp hm
  exact ⟨⟨d, hd, htorn⟩, rfl⟩

theorem firstMisuse?_eq_none : firstMisuse? ds = none ↔ ∀ d ∈ ds,
    Text.isTorn d.message = false := by
  simp [firstMisuse?, misuse?]

end Diagnostic

namespace Resolved

/-- What a relation says happens on deletion cannot be shown. -/
def ActionFault (r : Intent.Relation) (m : Misuse) : Prop :=
  ∃ a w, Intent.Attribute.find? r.attributes ["on_delete"] = some a ∧
    Value.find? "action" a.args = some w ∧ w.displayFault? = some m

theorem relationMisuse?_eq_some {r : Intent.Relation} {m : Misuse} :
    relationMisuse? r = some m ↔ ActionFault r m := by
  simp only [relationMisuse?, onDeleteValue?, ActionFault, Option.bind_eq_some_iff,
    Option.map_eq_some_iff]
  constructor
  · rintro ⟨-, ⟨a, ha, rfl⟩, hm⟩
    cases hw : Value.find? "action" a.args with
    | none => simp [hw] at hm
    | some w => exact ⟨a, w, ha, hw, by simpa [hw] using hm⟩
  · rintro ⟨a, w, ha, hw, hm⟩
    exact ⟨w, ⟨a, ha, by simp [hw]⟩, hm⟩

/-- Why the type of a field cannot be told: its relation is looked at and cannot be shown, or what
is wrong with the type has halves of pairs. -/
inductive Untold (owner : String) (f : AuthoredField) : Misuse → Prop
  | action {r : Intent.Relation} {m : Misuse} : f.relation = some r →
      (namesReference f || (ownType f owner).isOk) = true → ActionFault r m → Untold owner f m
  | fault {fault : TypeFault} : typeOf f owner = .error fault →
      Text.isTorn (typeError f fault "").message = true → Untold owner f .torn

theorem untold_of_typeMisuse? {f : AuthoredField} {owner : String} {m : Misuse}
    (h : typeMisuse? f owner = some m) : Untold owner f m := by
  rw [typeMisuse?] at h
  rcases Option.or_eq_some_iff.mp h with hrelation | ⟨-, htype⟩
  · obtain ⟨r, hr, hm⟩ := Option.bind_eq_some_iff.mp hrelation
    split at hm
    · rename_i hlooked
      exact .action hr hlooked (relationMisuse?_eq_some.mp hm)
    · cases hm
  · split at htype
    · cases htype
    · rename_i fault hfault
      obtain ⟨htorn, rfl⟩ := Diagnostic.misuse?_eq_some.mp htype
      exact .fault hfault htorn

theorem isSome_typeMisuse? {f : AuthoredField} {owner : String} :
    (typeMisuse? f owner).isSome = true ↔ ∃ m, Untold owner f m := by
  constructor
  · intro h
    obtain ⟨m, hm⟩ := Option.isSome_iff_exists.mp h
    exact ⟨m, untold_of_typeMisuse? hm⟩
  · rintro ⟨m, h⟩
    rw [typeMisuse?, Option.isSome_or, Bool.or_eq_true]
    cases h with
    | action hr hlooked hm =>
      rw [hr, Option.bind_some, if_pos hlooked, relationMisuse?_eq_some.mpr hm]
      exact .inl rfl
    | fault hfault htorn =>
      simp only [hfault, Diagnostic.misuse?_eq_some.mpr ⟨htorn, rfl⟩, Option.isSome_some, or_true]

/-- Among the fields that are resolved is one whose type cannot be told; a name that occurred before
keeps a field from being resolved where names may not occur again. -/
def HasUntoldField (checks : FieldChecks) (owner : String) (seen : List String)
    (fs : List AuthoredField) (m : Misuse) : Prop :=
  ∃ k f, fs[k]? = some f ∧
    (checks.duplicates = true → f.name ∉ seen ∧ f.name ∉ (fs.take k).map (·.name)) ∧
      Untold owner f m

section HasUntoldField

variable {checks : FieldChecks} {owner : String} {seen : List String} {fs : List AuthoredField}
  {m : Misuse}

theorem hasUntoldField_cons {f : AuthoredField} :
    HasUntoldField checks owner seen (f :: fs) m ↔
      ((checks.duplicates = true → f.name ∉ seen) ∧ Untold owner f m) ∨
        HasUntoldField checks owner (f.name :: seen) fs m := by
  constructor
  · rintro ⟨k, g, hg, hd, hm⟩
    cases k with
    | zero =>
      obtain rfl : f = g := by simpa using hg
      exact .inl ⟨fun h => (hd h).1, hm⟩
    | succ k =>
      refine .inr ⟨k, g, hg, fun h => ?_, hm⟩
      obtain ⟨hseen, hbefore⟩ := hd h
      rw [List.take_succ_cons, List.map_cons, List.mem_cons, not_or] at hbefore
      exact ⟨List.not_mem_cons_of_ne_of_not_mem hbefore.1 hseen, hbefore.2⟩
  · rintro (⟨hd, hm⟩ | ⟨k, g, hg, hd, hm⟩)
    · exact ⟨0, f, rfl, fun h => ⟨hd h, by simp⟩, hm⟩
    · refine ⟨k + 1, g, hg, fun h => ?_, hm⟩
      obtain ⟨hseen, hbefore⟩ := hd h
      rw [List.mem_cons, not_or] at hseen
      rw [List.take_succ_cons, List.map_cons]
      exact ⟨hseen.2, List.not_mem_cons_of_ne_of_not_mem hseen.1 hbefore⟩

/-- A name that occurred before changes nothing when it occurs again. -/
theorem hasUntoldField_of_mem {name : String} (hname : name ∈ seen) :
    HasUntoldField checks owner (name :: seen) fs m ↔ HasUntoldField checks owner seen fs m := by
  have same : ∀ n, n ∈ name :: seen ↔ n ∈ seen := by
    intro n
    rw [List.mem_cons, or_iff_right_of_imp]
    rintro rfl
    exact hname
  simp only [HasUntoldField, same]

theorem hasUntoldField_of_misuseFrom? (h : misuseFrom? checks owner seen fs = some m) :
    HasUntoldField checks owner seen fs m := by
  induction fs generalizing seen with
  | nil => cases h
  | cons f fs ih =>
    rw [misuseFrom?] at h
    split at h
    · rename_i hskip
      simp only [Bool.and_eq_true, List.contains_iff_mem] at hskip
      exact hasUntoldField_cons.mpr (.inr ((hasUntoldField_of_mem hskip.2).mpr (ih h)))
    · rename_i hskip
      rcases Option.or_eq_some_iff.mp h with hm | ⟨-, hm⟩
      · exact hasUntoldField_cons.mpr (.inl ⟨by simpa using hskip, untold_of_typeMisuse? hm⟩)
      · exact hasUntoldField_cons.mpr (.inr (ih hm))

theorem isSome_misuseFrom? : (misuseFrom? checks owner seen fs).isSome = true ↔
    ∃ m, HasUntoldField checks owner seen fs m := by
  constructor
  · intro h
    obtain ⟨m, hm⟩ := Option.isSome_iff_exists.mp h
    exact ⟨m, hasUntoldField_of_misuseFrom? hm⟩
  rintro ⟨m, h⟩
  induction fs generalizing seen with
  | nil =>
    obtain ⟨k, f, hf, -⟩ := h
    simp at hf
  | cons f fs ih =>
    rw [hasUntoldField_cons] at h
    rw [misuseFrom?]
    split
    · rename_i hskip
      simp only [Bool.and_eq_true, List.contains_iff_mem] at hskip
      rcases h with ⟨hfresh, -⟩ | hlater
      · exact absurd hskip.2 (hfresh hskip.1)
      · exact ih ((hasUntoldField_of_mem hskip.2).mp hlater)
    · rw [Option.isSome_or, Bool.or_eq_true]
      exact h.imp (fun hfirst => isSome_typeMisuse?.mpr ⟨m, hfirst.2⟩) ih

end HasUntoldField

namespace Overlay

/-- What of a capability cannot be used: strategies of an authentication without members, or with
one that cannot be shown, or a destination of uploads that cannot be shown. -/
inductive Unusable (i : Intent.AddCapability) : Misuse → Prop
  | strategies {w : Value} : i.capability = "auth" → truthy? "strategies" i.config = some w →
      members? w = none → Unusable i (.notIterable w.qualifiedKindName)
  | strategy {w u : Value} {ms : List Value} {m : Misuse} : i.capability = "auth" →
      truthy? "strategies" i.config = some w → members? w = some ms → u ∈ ms →
      u.displayFault? = some m → Unusable i m
  | destination {w : Value} {m : Misuse} : i.capability = "file_upload" →
      truthy? "destination" i.config = some w → w.displayFault? = some m → Unusable i m

theorem strategies_eq_error {i : Intent.AddCapability} {m : Misuse} :
    strategies i = .error m ↔ ∃ w, truthy? "strategies" i.config = some w ∧
      ((members? w = none ∧ m = .notIterable w.qualifiedKindName) ∨
        ∃ ms, members? w = some ms ∧ ms.findSome? Value.displayFault? = some m) := by
  unfold strategies
  cases hw : truthy? "strategies" i.config with
  | none => simp
  | some w =>
    cases hms : members? w with
    | none =>
      simp only [Option.some.injEq, exists_eq_left', hms, reduceCtorEq, false_and, exists_false,
        or_false, true_and, Except.error.injEq]
      exact eq_comm
    | some ms =>
      simp only [Option.some.injEq, exists_eq_left', hms, reduceCtorEq, false_and, false_or,
        ← Value.mapM_forDisplay_eq_error]
      cases ms.mapM Value.forDisplay <;> simp [bind, Except.bind, pure, Except.pure]

theorem auth_eq_error {i : Intent.AddCapability} {m : Misuse} :
    auth i = .error m ↔ strategies i = .error m := by
  unfold auth
  cases strategies i <;> simp [bind, Except.bind, pure, Except.pure]

theorem fileUpload_eq_error {i : Intent.AddCapability} {m : Misuse} :
    fileUpload i = .error m ↔
      ∃ w, truthy? "destination" i.config = some w ∧ w.displayFault? = some m := by
  have shown : fileUpload i = .error m ↔
      (orElse "destination" (.str "local") i.config).displayFault? = some m := by
    rw [← Value.forDisplay_eq_error]
    simp only [fileUpload]
    cases (orElse "destination" (.str "local") i.config).forDisplay <;>
      simp [bind, Except.bind, pure, Except.pure]
  rw [shown, orElse]
  cases truthy? "destination" i.config <;> simp

theorem unusable_of_ofCapability? {i : Intent.AddCapability} {m : Misuse}
    (h : ofCapability? i = .error m) : Unusable i m := by
  have mapped : ∀ {x : Except Misuse Overlay}, x.map some = .error m → x = .error m := by
    intro x
    cases x <;> simp [Except.map]
  unfold ofCapability? at h
  split at h
  · simp at h
  split at h
  · simp at h
  split at h
  · rename_i hauth
    obtain ⟨w, hw, ⟨hms, rfl⟩ | ⟨ms, hms, hm⟩⟩ :=
      strategies_eq_error.mp (auth_eq_error.mp (mapped h))
    · exact .strategies hauth hw hms
    · obtain ⟨u, hu, hm⟩ := List.exists_of_findSome?_eq_some hm
      exact .strategy hauth hw hms hu hm
  split at h
  · simp at h
  split at h
  · rename_i hupload
    obtain ⟨w, hw, hm⟩ := fileUpload_eq_error.mp (mapped h)
    exact .destination hupload hw hm
  · simp at h

theorem exists_ofCapability?_eq_error {i : Intent.AddCapability} {m : Misuse} (h : Unusable i m) :
    ∃ m', ofCapability? i = .error m' := by
  have of_strategies {m' : Misuse} (hauth : i.capability = "auth") (hs : strategies i = .error m') :
      ofCapability? i = .error m' := by
    simp [ofCapability?, hauth, auth_eq_error.mpr hs, Except.map]
  cases h with
  | strategies hauth hw hms =>
    exact ⟨_, of_strategies hauth (strategies_eq_error.mpr ⟨_, hw, .inl ⟨hms, rfl⟩⟩)⟩
  | @strategy w u ms m hauth hw hms hu hm =>
    have hsome : (ms.findSome? Value.displayFault?).isSome = true := by
      rw [List.findSome?_isSome_iff]
      exact ⟨u, hu, by rw [hm, Option.isSome_some]⟩
    obtain ⟨m', hm'⟩ := Option.isSome_iff_exists.mp hsome
    exact ⟨m', of_strategies hauth (strategies_eq_error.mpr ⟨w, hw, .inr ⟨ms, hms, hm'⟩⟩)⟩
  | destination hupload hw hm =>
    have herror := fileUpload_eq_error.mpr ⟨_, hw, hm⟩
    exact ⟨m, by simp [ofCapability?, hupload, herror, Except.map]⟩

end Overlay
end Resolved

namespace Draft

open Resolved

/-- The lists of fields that an intent of a kind has resolved, with what is checked of them and what
their enumerations are named after. -/
def fieldLists : Kind → Intent.Part → List (FieldChecks × String × List AuthoredField)
  | .addEntity, p =>
    [(⟨true, true⟩, (Intent.AddEntity.ofPart p).entity, (Intent.AddEntity.ofPart p).fields)]
  | .addField, p =>
    [(⟨true, true⟩, (Intent.AddField.ofPart p).entity, (Intent.AddField.ofPart p).fields)]
  | .addEndpoint, p =>
    let i := Intent.AddEndpoint.ofPart p
    [(messageChecks, responseOwner i, i.fields), (messageChecks, requestOwner i, i.requestFields)]
  | _, _ => []

theorem fields_of_mem_fieldLists {k : Kind} {p : Intent.Part} {checks : FieldChecks}
    {owner : String} {fs : List AuthoredField} (h : (checks, owner, fs) ∈ fieldLists k p) :
    ∃ name, fs = p.fields name := by
  cases k with
  | addEndpoint =>
    simp only [fieldLists, List.mem_cons, List.not_mem_nil, or_false, Prod.mk.injEq] at h
    rcases h with ⟨-, -, rfl⟩ | ⟨-, -, rfl⟩
    · exact ⟨"fields", rfl⟩
    · exact ⟨"request_fields", rfl⟩
  | addEntity | addField =>
    simp only [fieldLists, List.mem_singleton, Prod.mk.injEq] at h
    obtain ⟨-, -, rfl⟩ := h
    exact ⟨"fields", rfl⟩
  | _ => simp [fieldLists] at h

/-- What in a checked intent of a kind cannot be used as it has to be, or cannot be told. -/
inductive Unusable (c : Context) : Kind → Intent.Part → Misuse → Prop
  | capability {p : Intent.Part} {m : Misuse} : Overlay.Unusable (.ofPart p) m →
      Unusable c .addCapability p m
  | relation {p : Intent.Part} {m : Misuse} : ActionFault (Intent.AddRelation.ofPart p).relation m →
      Unusable c .addRelation p m
  | field {k : Kind} {p : Intent.Part} {checks : FieldChecks} {owner : String}
      {fs : List AuthoredField} {m : Misuse} : (checks, owner, fs) ∈ fieldLists k p →
      HasUntoldField checks owner [] fs m → Unusable c k p m
  | mention {p : Intent.Part} {d : Diagnostic} :
      d ∈ mention c (Intent.AddCapability.ofPart p).entity →
      Text.isTorn d.message = true → Unusable c .addCapability p .torn
  | report {k : Kind} {p : Intent.Part} {d : Draft} {x : Diagnostic} : ofPart k c p = .ok d →
      x ∈ d.diagnostics → Text.isTorn x.message = true → Unusable c k p .torn

section Unusable

variable {k : Kind} {c : Context} {p : Intent.Part} {d : Draft} {m : Misuse}

/-- A capability is drafted if its entity can be mentioned and its overlay is made. -/
theorem addCapability_eq_error {i : Intent.AddCapability} (h : addCapability c i = .error m) :
    Diagnostic.firstMisuse? (mention c i.entity) = some m ∨ Overlay.ofCapability? i = .error m := by
  simp only [addCapability] at h
  split at h
  · obtain rfl := Except.error.inj h
    exact .inl ‹_›
  · rcases bind_eq_error h with herror | ⟨overlay, -, hnone⟩
    · exact .inr herror
    · cases hnone

theorem diagnostics_of_addCapability {i : Intent.AddCapability} (h : addCapability c i = .ok d) :
    Diagnostic.firstMisuse? (mention c i.entity) = none ∧ d.misuse = none ∧
      ∃ overlay, Overlay.ofCapability? i = .ok overlay := by
  simp only [addCapability] at h
  split at h
  · exact absurd h throw_ne_ok
  · rename_i hmention
    obtain ⟨overlay, hoverlay, h⟩ := bind_eq_ok h
    obtain rfl := Except.ok.inj h
    exact ⟨Option.eq_none_iff_forall_ne_some.mpr hmention, rfl, overlay, hoverlay⟩

theorem unusable_of_error (h : ofPart k c p = .error m) : Unusable c k p m := by
  cases k with
  | addCapability =>
    rcases addCapability_eq_error h with hmention | hoverlay
    · obtain ⟨⟨x, hx, htorn⟩, rfl⟩ := Diagnostic.torn_of_firstMisuse? hmention
      exact .mention hx htorn
    · exact .capability (Overlay.unusable_of_ofCapability? hoverlay)
  | _ => simp [ofPart] at h

theorem unusable_of_misuse (hd : ofPart k c p = .ok d) (hm : d.misuse? = some m) :
    Unusable c k p m := by
  rcases Option.or_eq_some_iff.mp hm with hm | ⟨-, hm⟩
  · cases k with
    | addCapability => simp [(diagnostics_of_addCapability hd).2.1] at hm
    | addRelation =>
      obtain rfl := Except.ok.inj hd
      exact .relation (relationMisuse?_eq_some.mp hm)
    | addEntity | addField =>
      obtain rfl := Except.ok.inj hd
      exact .field (List.mem_singleton.mpr rfl) (hasUntoldField_of_misuseFrom? hm)
    | addEndpoint =>
      have hreport := hd
      obtain rfl := Except.ok.inj hd
      rcases Option.or_eq_some_iff.mp hm with hm | ⟨-, hm⟩
      · obtain ⟨⟨x, hx, htorn⟩, rfl⟩ := Diagnostic.torn_of_firstMisuse? hm
        exact .report hreport (List.mem_append_left _ (List.mem_append_left _ hx)) htorn
      rcases Option.or_eq_some_iff.mp hm with hm | ⟨-, hm⟩
      · exact .field List.mem_cons_self (hasUntoldField_of_misuseFrom? hm)
      · exact .field (List.mem_cons_of_mem _ List.mem_cons_self) (hasUntoldField_of_misuseFrom? hm)
    | _ =>
      obtain rfl := Except.ok.inj hd
      simp [removeField, removeEntity, renameEntity, renameField, updateEndpoint,
        addComponent] at hm
  · obtain ⟨⟨x, hx, htorn⟩, rfl⟩ := Diagnostic.torn_of_firstMisuse? hm
    exact .report hd hx htorn

theorem misuse?_eq_none : d.misuse? = none ↔
    d.misuse = none ∧ ∀ x ∈ d.diagnostics, Text.isTorn x.message = false := by
  rw [misuse?, Option.or_eq_none_iff, Diagnostic.firstMisuse?_eq_none]

/-- In a draft that is settled every field can be told of. -/
theorem not_hasUntoldField (hd : ofPart k c p = .ok d) (hm : d.misuse = none) {checks : FieldChecks}
    {owner : String} {fs : List AuthoredField} (h : (checks, owner, fs) ∈ fieldLists k p) :
    ¬ HasUntoldField checks owner [] fs m := by
  intro hfield
  have hsome : (fieldsMisuse? checks owner fs).isSome = true := isSome_misuseFrom?.mpr ⟨m, hfield⟩
  cases k with
  | addEntity | addField =>
    simp only [fieldLists, List.mem_singleton, Prod.mk.injEq] at h
    obtain ⟨rfl, rfl, rfl⟩ := h
    obtain rfl := Except.ok.inj hd
    rw [show fieldsMisuse? _ _ _ = none from hm] at hsome
    cases hsome
  | addEndpoint =>
    simp only [fieldLists, List.mem_cons, List.not_mem_nil, or_false, Prod.mk.injEq] at h
    obtain rfl := Except.ok.inj hd
    obtain ⟨-, hfields⟩ := Option.or_eq_none_iff.mp hm
    obtain ⟨hresponse, hrequest⟩ := Option.or_eq_none_iff.mp hfields
    rcases h with ⟨rfl, rfl, rfl⟩ | ⟨rfl, rfl, rfl⟩
    · simp [hresponse] at hsome
    · simp [hrequest] at hsome
  | _ => simp [fieldLists] at h

/-- A draft that is made and settled has nothing in its intent that cannot be used. -/
theorem not_unusable (hd : ofPart k c p = .ok d) (hm : d.misuse? = none) : ¬ Unusable c k p m := by
  obtain ⟨hmisuse, hwhole⟩ := misuse?_eq_none.mp hm
  intro h
  cases h with
  | capability ho =>
    obtain ⟨m', hm'⟩ := Overlay.exists_ofCapability?_eq_error ho
    obtain ⟨-, -, overlay, hoverlay⟩ := diagnostics_of_addCapability hd
    cases hm'.symm.trans hoverlay
  | relation hr =>
    obtain rfl := Except.ok.inj hd
    cases (relationMisuse?_eq_some.mpr hr).symm.trans hmisuse
  | field hl hfield => exact not_hasUntoldField hd hmisuse hl hfield
  | mention hx htorn =>
    have hnone := (diagnostics_of_addCapability hd).1
    simp [Diagnostic.firstMisuse?_eq_none.mp hnone _ hx] at htorn
  | report hd' hx htorn =>
    obtain rfl := Except.ok.inj (hd.symm.trans hd')
    simp [hwhole _ hx] at htorn

end Unusable

end Draft

namespace Resolution

section ofKind

variable {k : Kind} {c : Context} {now : DateTime} {s : Submission} {m : Misuse}

/-- An intent that is misused has something that cannot be used. -/
theorem unusable_of_ofKind (h : (ofKind k c now s).result = .error (.misused m)) :
    ∃ p, s.read k.model = .ok p ∧ Draft.Unusable c k p m := by
  unfold ofKind at h
  cases hp : s.read k.model with
  | error issues => simp [hp] at h
  | ok p =>
    refine ⟨p, rfl, ?_⟩
    cases hd : Draft.ofPart k c p with
    | error fault =>
      obtain rfl : fault = m := by simpa [hp, hd] using h
      exact Draft.unusable_of_error hd
    | ok d =>
      cases hm : d.misuse? with
      | some fault =>
        obtain rfl : fault = m := by simpa [hp, hd, hm] using h
        exact Draft.unusable_of_misuse hd hm
      | none =>
        simp only [hp, hd, hm, Run.map, Draft.finish] at h
        cases hs : d.settle c now <;> simp [hs] at h

/-- An intent is misused just when something in it cannot be used. -/
theorem exists_misused_iff (now : DateTime) :
    (∃ m, (ofKind k c now s).result = .error (.misused m)) ↔
      ∃ p m, s.read k.model = .ok p ∧ Draft.Unusable c k p m := by
  constructor
  · rintro ⟨m, hm⟩
    obtain ⟨p, hp, hu⟩ := unusable_of_ofKind hm
    exact ⟨p, m, hp, hu⟩
  · rintro ⟨p, m, hp, hu⟩
    cases hd : Draft.ofPart k c p with
    | error fault => exact ⟨fault, by simp [ofKind, hp, hd]⟩
    | ok d =>
      cases hm : d.misuse? with
      | some fault => exact ⟨fault, by simp [ofKind, hp, hd, hm]⟩
      | none => exact absurd hu (Draft.not_unusable hd hm)

end ofKind

/-- What in an intent cannot be used as it has to be, or cannot be told. -/
inductive Unusable (c : Context) (s : Submission) : Misuse → Prop
  | kind {m : Misuse} : kind? s = none → s.statedKind.displayFault? = some m → Unusable c s m
  | part {k : Kind} {p : Intent.Part} {m : Misuse} : kind? s = some k → s.read k.model = .ok p →
      Draft.Unusable c k p m → Unusable c s m

section Unusable

variable {c : Context} {now : DateTime} {s : Submission} {m : Misuse}

theorem unusable_of_misused (h : (Resolution.of c now s).result = .error (.misused m)) :
    Unusable c s m := by
  unfold Resolution.of at h
  cases hk : kind? s with
  | some k =>
    simp only [hk, Run.after] at h
    obtain ⟨p, hp, hu⟩ := unusable_of_ofKind h
    exact .part hk hp hu
  | none =>
    cases hd : s.statedKind.forDisplay with
    | error fault =>
      obtain rfl : fault = m := by simpa [hk, hd] using h
      exact .kind hk (Value.forDisplay_eq_error.mp hd)
    | ok stated => simp [hk, hd] at h

/-- An intent comes neither to an envelope nor to a rejection just when something in it cannot be
used. -/
theorem exists_misused_of_iff (now : DateTime) :
    (∃ m, (Resolution.of c now s).result = .error (.misused m)) ↔ ∃ m, Unusable c s m := by
  constructor
  · exact fun ⟨m, hm⟩ => ⟨m, unusable_of_misused hm⟩
  · rintro ⟨m, h⟩
    unfold Resolution.of
    cases h with
    | kind hk hm => exact ⟨m, by simp only [hk, Value.forDisplay_eq_error.mpr hm]⟩
    | part hk hp hu =>
      simp only [hk, Run.after]
      exact (exists_misused_iff now).mpr ⟨_, _, hp, hu⟩

end Unusable

end Resolution

section Json

open Intent

variable {p : Part}

theorem isShown_get (hp : p.HoldsOnly IsShown) (name : String) : (p.get name).HoldsOnly IsShown :=
  hp.field (.inl ⟨.null, rfl⟩) name

theorem isShown_of_mem_items? (hp : p.HoldsOnly IsShown) {name : String} {q : Part}
    (hq : q ∈ (p.items? name).getD []) : q.HoldsOnly IsShown := by
  rw [Part.items?, items?_getD] at hq
  exact (isShown_get hp name).of_mem_items hq

theorem not_actionFault (hp : p.HoldsOnly IsShown) {m : Misuse} :
    ¬ Resolved.ActionFault (.ofPart p) m := by
  rintro ⟨a, w, ha, hw, hm⟩
  obtain ⟨q, hq, rfl⟩ := List.mem_map.mp (List.mem_of_find?_eq_some ha)
  have hq := isShown_of_mem_items? hp hq
  simp only [Attribute.ofPart] at hw
  cases hargs : q.mapping? "args" with
  | none => simp [hargs, Value.find?] at hw
  | some es =>
    rw [hargs, Option.getD_some] at hw
    simp [(isShort_of_mapping hq hargs hw).2] at hm

/-- Of fields whose relations can be shown, only what is reported about them cannot be told. -/
theorem torn_of_hasUntoldField (hp : p.HoldsOnly IsShown) {checks : Resolved.FieldChecks}
    {owner name : String} {seen : List String} {m : Misuse}
    (h : Resolved.HasUntoldField checks owner seen (p.fields name) m) : m = .torn := by
  obtain ⟨k, f, hf, -, huntold⟩ := h
  cases huntold with
  | fault => rfl
  | action hr _ hfault =>
    obtain ⟨q, hq, rfl⟩ := List.mem_map.mp (List.mem_of_getElem? hf)
    have hq := isShown_of_mem_items? hp hq
    obtain ⟨q', hq', rfl⟩ := Option.map_eq_some_iff.mp hr
    simp only [Part.part?, Instance.some?] at hq'
    split at hq'
    · simp at hq'
    · obtain rfl := Option.some.inj hq'
      exact absurd hfault (not_actionFault (isShown_get hq "relation"))

theorem isShort_of_truthy? (hp : p.HoldsOnly IsShown) {key : String} {w : Value}
    (hw : Resolved.Overlay.truthy? key (AddCapability.ofPart p).config = some w) :
    Value.find? key (AddCapability.ofPart p).config = some w ∧ w.truthy = true ∧ w.IsShort := by
  obtain ⟨hfound, htruthy⟩ := Option.filter_eq_some_iff.mp hw
  refine ⟨hfound, htruthy, ?_⟩
  simp only [AddCapability.ofPart] at hfound
  cases hc : p.mapping? "config" with
  | none => simp [hc, Value.find?] at hfound
  | some es =>
    rw [hc, Option.getD_some] at hfound
    exact isShort_of_mapping hp hc hfound

theorem displayFault?_of_mem_members? {w u : Value} {ms : List Value} (hw : w.IsShort)
    (hms : Resolved.Overlay.members? w = some ms) (hu : u ∈ ms) : u.displayFault? = none := by
  cases hw.1 with
  | list =>
    obtain rfl := Option.some.inj hms
    exact (hw.of_mem_children hu).2
  | obj =>
    obtain rfl := Option.some.inj hms
    obtain ⟨e, -, rfl⟩ := List.mem_map.mp hu
    exact Value.displayFault?_str e.1
  | str s =>
    obtain rfl := Option.some.inj hms
    obtain ⟨letter, -, rfl⟩ := List.mem_map.mp hu
    exact Value.displayFault?_str letter
  | _ => simp [Resolved.Overlay.members?] at hms

/-- An intent for an authentication has a truth value or a number in the place of its strategies. -/
def HasLoneStrategy (v : Value) (m : Misuse) : Prop :=
  ∃ (p : Part) (w : Value), Resolution.kind? (.plain v) = some .addCapability ∧
    parse .addCapability v = .ok p ∧ p.text "capability" = "auth" ∧
    Value.find? "strategies" ((p.mapping? "config").getD []) = some w ∧
    (w = .bool true ∨ (∃ n, n ≠ 0 ∧ w = .int n) ∨ ∃ x : Binary64, x.isZero = false ∧ w = .float x) ∧
    m = .notIterable w.kindName

theorem isShort_statedKind {v : Value} (hv : v.IsShort) :
    (Submission.plain v).statedKind.IsShort := by
  cases hv.1 with
  | @obj entries =>
    cases hf : Value.find? "kind" entries with
    | none => simpa [Submission.statedKind, Value.lookup?, hf] using ⟨.null, rfl⟩
    | some w =>
      simp only [Submission.statedKind, Value.lookup?, hf, Option.getD_some]
      exact hv.of_mem_children (List.mem_map_of_mem (Value.mem_of_find? hf))
  | _ => exact ⟨.null, rfl⟩

/-- Something that is told about an intent has halves of pairs. -/
def HasTornReport (c : Context) (v : Value) : Prop :=
  ∃ k p, Resolution.kind? (.plain v) = some k ∧ parse k.model v = .ok p ∧ Draft.Unusable c k p .torn

/-- Nothing else cannot be used in an intent that comes from JSON, with values that can be shown. -/
theorem unusable_iff_of_isShort {c : Context} {v : Value} (hv : v.IsShort) {m : Misuse} :
    Resolution.Unusable c (.plain v) m ↔ HasLoneStrategy v m ∨ (m = .torn ∧ HasTornReport c v) := by
  constructor
  · intro h
    cases h with
    | kind _ hm => simp [(isShort_statedKind hv).2] at hm
    | @part k p _ hk hp hu =>
      have hshown := isShown_of_parse hv hp
      have torn (hm : m = .torn) : HasLoneStrategy v m ∨ (m = .torn ∧ HasTornReport c v) :=
        .inr ⟨hm, k, p, hk, hp, hm ▸ hu⟩
      cases hu with
      | mention => exact torn rfl
      | report => exact torn rfl
      | relation hfault => exact absurd hfault (not_actionFault (isShown_get hshown "relation"))
      | field hl hfield =>
        obtain ⟨name, rfl⟩ := Draft.fields_of_mem_fieldLists hl
        exact torn (torn_of_hasUntoldField hshown hfield)
      | capability ho =>
        cases ho with
        | @strategies w hauth hw hms =>
          obtain ⟨hfound, htruthy, hshort⟩ := isShort_of_truthy? hshown hw
          refine .inl ⟨_, w, hk, hp, hauth, hfound, ?_, ?_⟩
          · cases hshort.1 <;> simp_all [Resolved.Overlay.members?, Value.truthy]
          · cases hshort.1 <;> rfl
        | strategy _ hw hms hu hm =>
          obtain ⟨-, -, hshort⟩ := isShort_of_truthy? hshown hw
          simp [displayFault?_of_mem_members? hshort hms hu] at hm
        | destination _ hw hm =>
          obtain ⟨-, -, hshort⟩ := isShort_of_truthy? hshown hw
          simp [hshort.2] at hm
  · rintro (⟨p, w, hk, hp, hauth, hw, htruthy, rfl⟩ | ⟨rfl, k, p, hk, hp, hu⟩)
    · refine .part hk hp (.capability ?_)
      have hfound : Resolved.Overlay.truthy? "strategies"
        (AddCapability.ofPart p).config = some w := by
        simp only [Resolved.Overlay.truthy?, AddCapability.ofPart, hw]
        rcases htruthy with rfl | ⟨n, hn, rfl⟩ | ⟨x, hx, rfl⟩ <;> simp [Value.truthy, *]
      rcases htruthy with rfl | ⟨n, -, rfl⟩ | ⟨x, -, rfl⟩ <;> exact .strategies hauth hfound rfl
    · exact .part hk hp hu

end Json
end SchemaIntents
