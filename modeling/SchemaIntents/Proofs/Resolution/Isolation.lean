import SchemaIntents.Proofs.Intent.Retyping
import SchemaIntents.Proofs.Resolution.Reports
import SchemaIntents.Proofs.Resolution.Unfit

/-! What an unknown type does to the errors about an intent. The error about the type comes in among
those that were there before, and nothing else changes, unless the field was the only key of a new
entity: then there is an error about the key as well. -/
namespace SchemaIntents

open Intent (AuthoredField IsRetyped Kind)
open Shape

section Diagnostics

variable {old new : List Diagnostic} {error : Diagnostic} {lost : List Diagnostic}

/-- One error more in its place, and later perhaps another one. -/
def IsInserted (error : Diagnostic) (lost old new : List Diagnostic) : Prop :=
  ∃ before later after, old = before ++ later ++ after ∧
    new = before ++ error :: later ++ lost ++ after

theorem IsInserted.append (h : IsInserted error lost old new) (ds ds' : List Diagnostic) :
    IsInserted error lost (ds ++ old ++ ds') (ds ++ new ++ ds') := by
  obtain ⟨before, later, after, rfl, rfl⟩ := h
  exact ⟨ds ++ before, later, after ++ ds', by simp, by simp⟩

/-- If one error more can be told, the others can or cannot as before. -/
theorem IsInserted.any_torn (h : IsInserted error lost old new)
    (herror : Text.isTorn error.message = false)
    (hlost : ∀ d ∈ lost, Text.isTorn d.message = false) :
    new.any (fun d => Text.isTorn d.message) = old.any fun d => Text.isTorn d.message := by
  obtain ⟨before, later, after, rfl, rfl⟩ := h
  have hnone : lost.any (fun d => Text.isTorn d.message) = false := by simpa using hlost
  simp [herror, hnone]

/-- What cannot be told is an error or not. -/
theorem any_torn_eq (ds : List Diagnostic) : ds.any (fun d => Text.isTorn d.message) =
    ((ds.filter Diagnostic.isError).any (fun d => Text.isTorn d.message) ||
      (ds.filter (!·.isError)).any fun d => Text.isTorn d.message) := by
  induction ds with
  | nil => rfl
  | cons d ds ih => cases herr : d.isError <;> simp [herr, ih, Bool.or_assoc, Bool.or_left_comm]

theorem firstMisuse?_eq_ite (ds : List Diagnostic) : Diagnostic.firstMisuse? ds =
    if ds.any (fun d => Text.isTorn d.message) then some .torn else none := by
  cases h : Diagnostic.firstMisuse? ds with
  | none =>
    rw [if_neg]
    simpa using Diagnostic.firstMisuse?_eq_none.mp h
  | some m =>
    obtain ⟨htorn, rfl⟩ := Diagnostic.torn_of_firstMisuse? h
    rw [if_pos (List.any_eq_true.mpr htorn)]

end Diagnostics

namespace Draft

open Resolved

/-- Where an intent of a kind lists the fields that it has resolved: under a key, with what is
checked of them and what their enumerations are named after. -/
def fieldPlaces : Kind → Intent.Part → List (String × FieldChecks × String)
  | .addEntity, p => [("fields", ⟨true, true⟩, (Intent.AddEntity.ofPart p).entity)]
  | .addField, p => [("fields", ⟨true, true⟩, (Intent.AddField.ofPart p).entity)]
  | .addEndpoint, p =>
    [("fields", messageChecks, responseOwner (.ofPart p)),
      ("request_fields", messageChecks, requestOwner (.ofPart p))]
  | _, _ => []

/-- The error that there is no key, for a new entity that had one field of some name for its key. -/
def lostKey (k : Kind) (p : Intent.Part) (name : String) : List Diagnostic :=
  if k = .addEntity ∧ keyNames (.ofPart p) = [name] then primaryError [] else []

section Errors

variable {c : Context} {p p' : Intent.Part} {n : Nat} {f : AuthoredField} {t : FieldType}
  {word key owner : String} {checks : FieldChecks} {i : Intent.AddEntity}

/-- Without a name that may be that of a key there is no key just where it was the only one. -/
theorem primaryError_filter (isKey : String → Bool) (before after : List String) (name : String) :
    primaryError ((before ++ after).filter isKey) =
      primaryError ((before ++ name :: after).filter isKey) ++
        if (before ++ name :: after).filter isKey = [name] then primaryError [] else [] := by
  rw [List.filter_append, List.filter_append, List.filter_cons]
  by_cases hkey : isKey name = true
  · rw [if_pos hkey]
    cases hbefore : before.filter isKey <;> cases hafter : after.filter isKey <;>
      simp [primaryError]
  · have hnot : ¬ before.filter isKey ++ after.filter isKey = [name] := by
      intro h
      have hmem : name ∈ before.filter isKey ++ after.filter isKey :=
        h ▸ List.mem_singleton_self name
      rw [← List.filter_append] at hmem
      exact hkey (List.of_mem_filter hmem)
    rw [if_neg hkey, if_neg hnot, List.append_nil]

/-- The errors about a new entity: those about its fields, that about its key, and those about
names. -/
theorem errors_addEntity (c : Context) (i : Intent.AddEntity) :
    (addEntity c i).diagnostics.filter Diagnostic.isError =
      (resolveFields ⟨true, true⟩ i.entity "$.fields" i.fields).1.filter Diagnostic.isError ++
        (primaryError (keyNames i) ++ referenceErrors i) := by
  have key : (primaryError (keyNames i)).filter Diagnostic.isError = primaryError (keyNames i) := by
    unfold primaryError
    split <;> rfl
  have references : (referenceErrors i).filter Diagnostic.isError = referenceErrors i :=
    List.filter_eq_self.mpr fun _ => isError_of_mem_referenceErrors
  rw [diagnostics_addEntity, ← keyNames]
  simp only [List.filter_append, key, references,
    filter_isError_of_any (any_reservedWarning _ _ _), filter_isError_of_any (any_tableOf _ _),
    filter_isError_of_any (any_primaryNote _ _), filter_isError_of_any (any_constraints _ _ _)]
  simp

/-- The errors about the fields of a list, of which one gets an unknown type. -/
theorem isInserted_resolveFields {fs : List AuthoredField} (checks : FieldChecks) (root : String)
    (hf : fs[n]? = some f) (ht : typeOf f owner = .ok t) (hword : IsUnknownWord word)
    (hnew : checks.duplicates = true → f.name ∉ (fs.take n).map (·.name)) :
    IsInserted (typeError (f.retyped word) (.unknown word) (root ++ s!"[{n}]")) []
      ((resolveFields checks owner root fs).1.filter Diagnostic.isError)
      ((resolveFields checks owner root (fs.set n (f.retyped word))).1.filter
        Diagnostic.isError) := by
  obtain ⟨before, after, -, -, hold, hnew, -, -⟩ := resolveFrom_set root [] 0 hf ht
    hword fun hd => ⟨List.not_mem_nil, hnew hd⟩
  rw [Nat.zero_add] at hnew
  exact ⟨before, after, [], by simpa [resolveFields] using hold,
    by simpa [resolveFields] using hnew⟩

theorem isInserted_addEntity (hf : i.fields[n]? = some f) (ht : typeOf f i.entity = .ok t)
    (hword : IsUnknownWord word) (hnew : f.name ∉ (i.fields.take n).map (·.name)) :
    IsInserted (typeError (f.retyped word) (.unknown word) ("$.fields" ++ s!"[{n}]"))
      (if keyNames i = [f.name] then primaryError [] else [])
      ((addEntity c i).diagnostics.filter Diagnostic.isError)
      ((addEntity c { i with fields := i.fields.set n (f.retyped word) }).diagnostics.filter
        Diagnostic.isError) := by
  let i' := { i with fields := i.fields.set n (f.retyped word) }
  obtain ⟨before, after, rs, rs', hold, hnew, hres, hres'⟩ := resolveFrom_set "$.fields" [] 0
    hf ht hword fun _ => ⟨List.not_mem_nil, hnew⟩
  have hkeys : primaryError (keyNames i') = primaryError (keyNames i) ++
      if keyNames i = [f.name] then primaryError [] else [] := by
    have hold : keyNames i = (rs.map (·.name) ++ f.name :: rs'.map (·.name)).filter
        (namesKey i.fields) := by
      rw [keyNames, keys_markedFields, resolveFields, hres]
      simp [Field.ofAuthored]
    have hnew : keyNames i' = (rs.map (·.name) ++ rs'.map (·.name)).filter (namesKey i.fields) := by
      rw [keyNames, keys_markedFields, resolveFields, hres', namesKey_set hf]
      simp
    rw [hold, hnew]
    exact primaryError_filter _ _ _ _
  have hreferences : referenceErrors i' = referenceErrors i := by
    simp only [referenceErrors, i', map_set_retyped (g := (·.name)) rfl hf]
  rw [Nat.zero_add] at hnew
  refine ⟨before, after ++ primaryError (keyNames i), referenceErrors i, ?_, ?_⟩
  · rw [errors_addEntity, resolveFields, hold]
    simp
  · rw [errors_addEntity, resolveFields, hnew, hkeys, hreferences]
    simp

end Errors

section Places

variable {k : Kind} {c : Context} {p p' : Intent.Part} {n : Nat} {f : AuthoredField} {t : FieldType}
  {word key owner : String} {checks : FieldChecks} {d d' : Draft}

/-- What is the same of two drafts if one field of the intent gets an unknown type, and which errors
there are more. -/
structure IsIsolated (error : Diagnostic) (lost : List Diagnostic) (d d' : Draft) : Prop where
  misuse : d'.misuse = d.misuse
  errors : IsInserted error lost (d.diagnostics.filter Diagnostic.isError)
    (d'.diagnostics.filter Diagnostic.isError)
  remarks : (d'.diagnostics.filter (!·.isError)).any (fun x => Text.isTorn x.message) =
    (d.diagnostics.filter (!·.isError)).any fun x => Text.isTorn x.message

theorem IsIsolated.misuse? {error : Diagnostic} {lost : List Diagnostic}
    (h : IsIsolated error lost d d')
    (herror : Text.isTorn error.message = false)
      (hlost : ∀ d ∈ lost, Text.isTorn d.message = false) :
    d'.misuse? = d.misuse? := by
  rw [Draft.misuse?, Draft.misuse?, h.misuse, firstMisuse?_eq_ite, firstMisuse?_eq_ite, any_torn_eq,
    any_torn_eq d.diagnostics, h.remarks, h.errors.any_torn herror hlost]

theorem isTorn_of_mem_lostKey {d : Diagnostic} {name : String} (hd : d ∈ lostKey k p name) :
    Text.isTorn d.message = false := by
  unfold lostKey at hd
  split at hd
  · obtain rfl := List.mem_singleton.mp hd
    decide
  · cases hd

/-- A field whose unknown type can be told. -/
structure TypeIsTold (f : AuthoredField) (word : String) : Prop where
  named : Text.isTorn f.name = false
  whole : Text.isTorn word = false
  unknown : IsUnknownWord word

theorem TypeIsTold.misuse? (h : TypeIsTold f word) : typeMisuse? (f.retyped word) owner = none := by
  rw [typeMisuse?_retyped h.named h.unknown, h.whole]
  rfl

theorem any_remarks_eq_false {ds : List Diagnostic}
    (h : ∀ x ∈ ds, x.isError = false → Text.isTorn x.message = false) :
    (ds.filter (!·.isError)).any (fun x => Text.isTorn x.message) = false := by
  simpa using h

section Drafts

theorem sound_retyped (hf : f.Sound) : (f.retyped word).Sound :=
  ⟨hf.name_proper, hf.enumName_ne, hf.maxLength_pos, hf.minLength_nonneg, fun _ hr => by cases hr⟩

theorem sound_set {fs : List AuthoredField} (hfs : ∀ f ∈ fs, f.Sound) (hf : fs[n]? = some f) :
    ∀ g ∈ fs.set n (f.retyped word), g.Sound := by
  intro g hg
  rcases List.mem_or_eq_of_mem_set hg with hg | rfl
  · exact hfs g hg
  · exact sound_retyped (hfs f (List.mem_of_getElem? hf))

theorem ofPart_addEntity (h : IsRetyped p p' "fields" n f word) :
    let i := Intent.AddEntity.ofPart p
    Intent.AddEntity.ofPart p' = { i with fields := i.fields.set n (f.retyped word) } := by
  simp (disch := decide) only [Intent.AddEntity.ofPart, Intent.Labels.ofPart, Intent.Part.text,
    Intent.Part.some?, Intent.Part.text?, Intent.Part.texts?, Intent.Part.items?, Intent.Part.part?,
    h.others, h.fields]

theorem ofPart_addField (h : IsRetyped p p' "fields" n f word) :
    let i := Intent.AddField.ofPart p
    Intent.AddField.ofPart p' = { i with fields := i.fields.set n (f.retyped word) } := by
  simp (disch := decide) only [Intent.AddField.ofPart, Intent.Part.text, h.others, h.fields]

theorem ofPart_response (h : IsRetyped p p' "fields" n f word) :
    let i := Intent.AddEndpoint.ofPart p
    Intent.AddEndpoint.ofPart p' = { i with fields := i.fields.set n (f.retyped word) } := by
  simp (disch := decide) only [Intent.AddEndpoint.ofPart, Intent.Part.text, Intent.Part.some?,
    Intent.Part.text?, Intent.Part.part?, h.others, h.fields, h.fields_of_ne]

theorem ofPart_request (h : IsRetyped p p' "request_fields" n f word) :
    let i := Intent.AddEndpoint.ofPart p
    Intent.AddEndpoint.ofPart p' =
      { i with requestFields := i.requestFields.set n (f.retyped word) } := by
  simp (disch := decide) only [Intent.AddEndpoint.ofPart, Intent.Part.text, Intent.Part.some?,
    Intent.Part.text?, Intent.Part.part?, h.others, h.fields, h.fields_of_ne]

end Drafts

theorem isIsolated_addEntity (hi : (Intent.AddEntity.ofPart p).Sound)
    (h : IsRetyped p p' "fields" n f word) (hf : (p.fields "fields")[n]? = some f)
    (ht : HasType f (Intent.AddEntity.ofPart p).entity t) (htold : TypeIsTold f word)
    (hnew : f.name ∉ ((p.fields "fields").take n).map (·.name)) :
    IsIsolated (typeError (f.retyped word) (.unknown word) ("$.fields" ++ s!"[{n}]"))
      (lostKey .addEntity p f.name) (addEntity c (.ofPart p)) (addEntity c (.ofPart p')) := by
  let i := Intent.AddEntity.ofPart p
  let i' := { i with fields := i.fields.set n (f.retyped word) }
  have hsame : Intent.AddEntity.ofPart p' = i' := ofPart_addEntity h
  have hi' : i'.Sound := { hi with
    fields_some := by simpa [i'] using hi.fields_some
    fields_sound := sound_set hi.fields_sound hf }
  have hlost : lostKey .addEntity p f.name = if keyNames i = [f.name] then primaryError
    [] else [] := by
    simp [lostKey, i]
  rw [hsame, hlost]
  refine ⟨misuseFrom?_set hf ht.2 htold.misuse?,
    isInserted_addEntity hf ht.1 htold.unknown hnew, ?_⟩
  have old := any_remarks_eq_false fun x hx => isTorn_of_mem_addEntity (c := c) hi hx
  have new := any_remarks_eq_false fun x hx => isTorn_of_mem_addEntity (c := c) hi' hx
  exact new.trans old.symm

theorem isIsolated_addField (hfs : ∀ f ∈ p.fields "fields", f.Sound)
    (h : IsRetyped p p' "fields" n f word) (hf : (p.fields "fields")[n]? = some f)
    (ht : HasType f (Intent.AddField.ofPart p).entity t) (htold : TypeIsTold f word)
    (hnew : f.name ∉ ((p.fields "fields").take n).map (·.name)) :
    IsIsolated (typeError (f.retyped word) (.unknown word) ("$.fields" ++ s!"[{n}]"))
      (lostKey .addField p f.name) (addField c (.ofPart p)) (addField c (.ofPart p')) := by
  let i := Intent.AddField.ofPart p
  have hsame : Intent.AddField.ofPart p' = { i with fields := i.fields.set n (f.retyped word) } :=
    ofPart_addField h
  have hlost : lostKey .addField p f.name = [] := by simp [lostKey]
  have herrors (i : Intent.AddField) : (addField c i).diagnostics.filter Diagnostic.isError =
      (lookUp c .error "Entity" i.entity "$.entity").filter Diagnostic.isError ++
        (resolveFields ⟨true, true⟩ i.entity "$.fields" i.fields).1.filter Diagnostic.isError ++
          [] := by
    simp [addField]
  have hremarks (i : Intent.AddField) (hfs : ∀ f ∈ i.fields, f.Sound) :
      ((addField c i).diagnostics.filter (!·.isError)).any (fun x => Text.isTorn x.message) =
        false := by
    refine any_remarks_eq_false fun x hx herr => ?_
    rcases List.mem_append.mp hx with hx | hx
    · unfold lookUp at hx
      split at hx
      · cases hx
      · obtain rfl := List.mem_singleton.mp hx
        cases herr
    · exact isTorn_of_mem_resolveFields hfs hx herr
  rw [hsame, hlost]
  refine ⟨misuseFrom?_set hf ht.2 htold.misuse?, ?_, ?_⟩
  · rw [herrors, herrors]
    exact (isInserted_resolveFields _ _ hf ht.1 htold.unknown fun _ => hnew).append _ _
  · exact (hremarks { i with fields := _ } (sound_set hfs hf)).trans (hremarks i hfs).symm

theorem errors_addEndpoint (c : Context) (i : Intent.AddEndpoint) :
    (addEndpoint c i).diagnostics.filter Diagnostic.isError =
      (resolveFields messageChecks (responseOwner i) "$.fields" i.fields).1.filter
        Diagnostic.isError ++
        (resolveFields messageChecks (requestOwner i) "$.request_fields" i.requestFields).1.filter
          Diagnostic.isError := by
  have mentioned : (mention c i.entity).filter Diagnostic.isError = [] :=
    List.filter_eq_nil_iff.mpr fun d hd => by simp [isError_mention hd]
  simp [addEndpoint, mentioned]

/-- Of an endpoint nothing is reported besides errors but that its entity may not exist. -/
theorem remarks_addEndpoint (c : Context) (i : Intent.AddEndpoint) :
    (addEndpoint c i).diagnostics.filter (!·.isError) = mention c i.entity := by
  have fields (owner root : String) (fs : List AuthoredField) :
      (resolveFields messageChecks owner root fs).1.filter (!·.isError) = [] := by
    rw [List.filter_eq_nil_iff]
    intro d hd herr
    obtain ⟨f, -, path, hwarned⟩ := exists_reserved_of_mem_resolveFrom hd (by simpa using herr)
    simp [nameWarning, messageChecks] at hwarned
  have mentioned : (mention c i.entity).filter (!·.isError) = mention c i.entity :=
    List.filter_eq_self.mpr fun d hd => by simp [isError_mention hd]
  simp [addEndpoint, mentioned, fields]

theorem isIsolated_response (h : IsRetyped p p' "fields" n f word)
    (hf : (p.fields "fields")[n]? = some f) (ht : HasType f (responseOwner (.ofPart p)) t)
    (htold : TypeIsTold f word) :
    IsIsolated (typeError (f.retyped word) (.unknown word) ("$.fields" ++ s!"[{n}]"))
      (lostKey .addEndpoint p f.name) (addEndpoint c (.ofPart p)) (addEndpoint c (.ofPart p')) := by
  let i := Intent.AddEndpoint.ofPart p
  have hsame : Intent.AddEndpoint.ofPart p' =
    { i with fields := i.fields.set n (f.retyped word) } :=
    ofPart_response h
  have hlost : lostKey .addEndpoint p f.name = [] := by simp [lostKey]
  rw [hsame, hlost]
  refine ⟨?_, ?_, by rw [remarks_addEndpoint, remarks_addEndpoint]⟩
  · exact congrArg (fun m => Option.or _ (Option.or m _)) (misuseFrom?_set hf ht.2 htold.misuse?)
  · rw [errors_addEndpoint, errors_addEndpoint]
    exact (isInserted_resolveFields messageChecks _ hf ht.1
      htold.unknown fun h => by cases h).append [] _

theorem isIsolated_request (h : IsRetyped p p' "request_fields" n f word)
    (hf : (p.fields "request_fields")[n]? = some f) (ht : HasType f (requestOwner (.ofPart p)) t)
    (htold : TypeIsTold f word) :
    IsIsolated (typeError (f.retyped word) (.unknown word) ("$.request_fields" ++ s!"[{n}]"))
      (lostKey .addEndpoint p f.name) (addEndpoint c (.ofPart p)) (addEndpoint c (.ofPart p')) := by
  let i := Intent.AddEndpoint.ofPart p
  have hsame : Intent.AddEndpoint.ofPart p' =
      { i with requestFields := i.requestFields.set n (f.retyped word) } := ofPart_request h
  have hlost : lostKey .addEndpoint p f.name = [] := by simp [lostKey]
  rw [hsame, hlost]
  refine ⟨?_, ?_, by rw [remarks_addEndpoint, remarks_addEndpoint]⟩
  · exact congrArg (fun m => Option.or _ (Option.or _ m)) (misuseFrom?_set hf ht.2 htold.misuse?)
  · rw [errors_addEndpoint, errors_addEndpoint]
    have hfields := (isInserted_resolveFields messageChecks "$.request_fields" hf ht.1 htold.unknown
      fun h => by cases h).append ((resolveFields messageChecks (responseOwner i) "$.fields"
        i.fields).1.filter Diagnostic.isError) []
    rwa [List.append_nil, List.append_nil] at hfields

/-- The fields that have names in an accepted intent. -/
theorem sound_of_mem_fieldPlaces (hplace : (key, checks, owner) ∈ fieldPlaces k p)
    (hp : Intent.Accepted k.model p) : ∀ f ∈ p.fields key, f.Sound := by
  cases k with
  | addEntity =>
    simp only [fieldPlaces, List.mem_singleton, Prod.mk.injEq] at hplace
    obtain ⟨rfl, -, -⟩ := hplace
    exact hp.addEntity.fields_sound
  | addField =>
    simp only [fieldPlaces, List.mem_singleton, Prod.mk.injEq] at hplace
    obtain ⟨rfl, -, -⟩ := hplace
    have hfields : 1 ≤ (p.fields "fields").length ∧ ∀ f ∈ p.fields "fields", f.Sound :=
      hp.fields (k := "fields") (by simp [Kind.model, Intent.schema, Intent.addField])
    exact hfields.2
  | addEndpoint =>
    simp only [fieldPlaces, List.mem_cons, List.not_mem_nil, or_false, Prod.mk.injEq] at hplace
    have listed : ∀ name ∈ ["fields", "request_fields"],
        .maybe name name (.list 0 (.model .field)) ∈ (Intent.schema .addEndpoint).fields := by
      simp [Intent.schema, Intent.addEndpoint]
    rcases hplace with ⟨rfl, -, -⟩ | ⟨rfl, -, -⟩
    · exact hp.fields_of_maybe (listed _ (by simp))
    · exact hp.fields_of_maybe (listed _ (by simp))
  | _ => simp [fieldPlaces] at hplace

/-- A field with an unknown type is isolated in each list of fields. -/
theorem isIsolated_of_mem_fieldPlaces (hplace : (key, checks, owner) ∈ fieldPlaces k p)
    (hp : Intent.Accepted k.model p) (h : IsRetyped p p' key n f word)
    (hf : (p.fields key)[n]? = some f) (ht : HasType f owner t) (htold : TypeIsTold f word)
    (hnew : checks.duplicates = true → f.name ∉ ((p.fields key).take n).map (·.name)) :
    ∃ d d', ofPart k c p = .ok d ∧ ofPart k c p' = .ok d' ∧
      IsIsolated (typeError (f.retyped word) (.unknown word) ("$." ++ key ++ s!"[{n}]"))
        (lostKey k p f.name) d d' := by
  have hsound := sound_of_mem_fieldPlaces hplace hp
  cases k with
  | addEntity =>
    simp only [fieldPlaces, List.mem_singleton, Prod.mk.injEq] at hplace
    obtain ⟨rfl, rfl, rfl⟩ := hplace
    exact ⟨_, _, rfl, rfl, isIsolated_addEntity hp.addEntity h hf ht htold (hnew rfl)⟩
  | addField =>
    simp only [fieldPlaces, List.mem_singleton, Prod.mk.injEq] at hplace
    obtain ⟨rfl, rfl, rfl⟩ := hplace
    exact ⟨_, _, rfl, rfl, isIsolated_addField hsound h hf ht htold (hnew rfl)⟩
  | addEndpoint =>
    simp only [fieldPlaces, List.mem_cons, List.not_mem_nil, or_false, Prod.mk.injEq] at hplace
    rcases hplace with ⟨rfl, rfl, rfl⟩ | ⟨rfl, rfl, rfl⟩
    · exact ⟨_, _, rfl, rfl, isIsolated_response h hf ht htold⟩
    · exact ⟨_, _, rfl, rfl, isIsolated_request h hf ht htold⟩
  | _ => simp [fieldPlaces] at hplace

/-- A field with an unknown type stands in the list of fields of the changed intent. -/
theorem mem_fieldLists_of_retyped (hplace : (key, checks, owner) ∈ fieldPlaces k p)
    (h : IsRetyped p p' key n f word) :
    (checks, owner, (p.fields key).set n (f.retyped word)) ∈ fieldLists k p' := by
  cases k with
  | addEntity =>
    simp only [fieldPlaces, List.mem_singleton, Prod.mk.injEq] at hplace
    obtain ⟨rfl, rfl, rfl⟩ := hplace
    have hsame := ofPart_addEntity h
    exact List.mem_singleton.mpr (by rw [hsame]; rfl)
  | addField =>
    simp only [fieldPlaces, List.mem_singleton, Prod.mk.injEq] at hplace
    obtain ⟨rfl, rfl, rfl⟩ := hplace
    have hsame := ofPart_addField h
    exact List.mem_singleton.mpr (by rw [hsame]; rfl)
  | addEndpoint =>
    simp only [fieldPlaces, List.mem_cons, List.not_mem_nil, or_false, Prod.mk.injEq] at hplace
    rcases hplace with ⟨rfl, rfl, rfl⟩ | ⟨rfl, rfl, rfl⟩
    · have hsame := ofPart_response h
      exact List.mem_cons.mpr (.inl (by rw [hsame]; rfl))
    · have hsame := ofPart_request h
      exact List.mem_cons_of_mem _ (List.mem_singleton.mpr (by rw [hsame]; rfl))
  | _ => simp [fieldPlaces] at hplace

/-- A type that cannot be told keeps an intent from being drafted. -/
theorem unusable_of_retyped (hplace : (key, checks, owner) ∈ fieldPlaces k p)
    (h : IsRetyped p p' key n f word) (hf : (p.fields key)[n]? = some f)
    (hname : Text.isTorn f.name = false) (hunknown : IsUnknownWord word)
      (htorn : Text.isTorn word = true)
    (hnew : checks.duplicates = true → f.name ∉ ((p.fields key).take n).map (·.name)) :
    Unusable c k p' .torn := by
  obtain ⟨hn, -⟩ := List.getElem?_eq_some_iff.mp hf
  refine .field (mem_fieldLists_of_retyped hplace h)
    ⟨n, f.retyped word, by simp [hn], fun hd => ?_, ?_⟩
  · rw [List.take_set_of_le (Nat.le_refl n)]
    exact ⟨List.not_mem_nil, hnew hd⟩
  · exact .fault (typeOf_retyped hunknown) ((isTorn_typeError_retyped hname _).trans htorn)

/-- The codes of the errors that come of what an intent means. -/
def semanticCodes : List String :=
  ["IR020", "IR021", "IR022", "IR023", "IR030"]

theorem coded_errors_of_mem_fieldPlaces (hplace : (key, checks, owner) ∈ fieldPlaces k p)
    (hd : ofPart k c p' = .ok d) : Coded semanticCodes
      (d.diagnostics.filter Diagnostic.isError) := by
  have fields (checks : FieldChecks) (owner root : String) (fs : List AuthoredField) :
      Coded semanticCodes ((resolveFields checks owner root fs).1.filter Diagnostic.isError) :=
    (coded_errors_resolveFrom _ _ _ _ _ _).mono (by decide)
  cases k with
  | addEntity =>
    obtain rfl := Except.ok.inj hd
    exact (coded_errors_addEntity _ _).mono (by decide)
  | addField =>
    obtain rfl := Except.ok.inj hd
    have lookedUp : Coded ["IR030"] (lookUp c .error "Entity" (Intent.AddField.ofPart p').entity
        "$.entity") := by
      unfold lookUp
      split <;> simp
    simp only [addField, List.filter_append, coded_append]
    exact ⟨(coded_errors lookedUp).mono (by decide), fields _ _ _ _⟩
  | addEndpoint =>
    obtain rfl := Except.ok.inj hd
    rw [errors_addEndpoint, coded_append]
    exact ⟨fields _ _ _ _, fields _ _ _ _⟩
  | _ => simp [fieldPlaces] at hplace

end Places

end Draft

namespace Resolution

open Draft Resolved

variable {c : Context} {now : DateTime} {k : Kind} {s s' : Intent.Submission} {p p' : Intent.Part}
  {n : Nat} {f : AuthoredField} {t : FieldType} {word key owner : String} {checks : FieldChecks}

/-- The errors about what an intent means, with an envelope or a rejection. -/
def semanticErrors (r : Resolution) : List Diagnostic :=
  (reports r).filter fun d => d.isError && semanticCodes.contains d.code

theorem semanticErrors_settle {d : Draft} (hd : Draft.ofPart k c p = .ok d)
    (hcoded : Coded semanticCodes (d.diagnostics.filter Diagnostic.isError)) :
    semanticErrors ((d.settle c now).mapError Refusal.rejected) =
      d.diagnostics.filter Diagnostic.isError := by
  have own : d.diagnostics.filter (fun x => x.isError && semanticCodes.contains x.code) =
      d.diagnostics.filter Diagnostic.isError := by
    refine List.filter_congr fun x hx => ?_
    cases he : x.isError with
    | false => rfl
    | true => simpa using hcoded x (List.mem_filter.mpr ⟨hx, he⟩)
  have misfits : (d.misfitReports c now).filter
      (fun x => x.isError && semanticCodes.contains x.code) = [] := by
    have hcode : ∀ x ∈ d.misfitReports c now, x.code = "IR099" := by
      unfold misfitReports
      split
      · simp
      · split
        · simp
        · simp [reportIssues]
    rw [List.filter_eq_nil_iff]
    intro x hx
    simp [hcode x hx, semanticCodes]
  rw [semanticErrors, reports_settle hd, List.filter_append, own, misfits, List.append_nil]

theorem listsFields_of_mem_fieldPlaces (hplace : (key, checks, owner) ∈ fieldPlaces k p) :
    ∃ g, g.name = key ∧ Intent.ListsFields k.model g := by
  have required {m : Intent.Name}
      (hmem : .required "fields" "fields" (.list 1 (.model .field)) ∈ (Intent.schema m).fields)
      (hrule : (Intent.schema m).rule = none)
        (hwires : ∀ u ∈ (Intent.schema m).fields, u.wire = u.name) :
      Intent.ListsFields m (.required "fields" "fields" (.list 1 (.model .field))) :=
    ⟨hmem, rfl, ⟨1, .inl rfl⟩, by simp [Field.required], hrule, hwires⟩
  have maybe {m : Intent.Name} (key : String)
      (hmem : .maybe key key (.list 0 (.model .field)) ∈ (Intent.schema m).fields)
      (hrule : (Intent.schema m).rule = none)
        (hwires : ∀ u ∈ (Intent.schema m).fields, u.wire = u.name) :
      Intent.ListsFields m (.maybe key key (.list 0 (.model .field))) :=
    ⟨hmem, rfl, ⟨0, .inr rfl⟩, by simp [Field.maybe], hrule, hwires⟩
  cases k with
  | addEntity =>
    simp only [fieldPlaces, List.mem_singleton, Prod.mk.injEq] at hplace
    exact ⟨_, hplace.1.symm,
      required (by simp [Kind.model, Intent.schema, Intent.addEntity]) rfl (by decide)⟩
  | addField =>
    simp only [fieldPlaces, List.mem_singleton, Prod.mk.injEq] at hplace
    exact ⟨_, hplace.1.symm,
      required (by simp [Kind.model, Intent.schema, Intent.addField]) rfl (by decide)⟩
  | addEndpoint =>
    simp only [fieldPlaces, List.mem_cons, List.not_mem_nil, or_false, Prod.mk.injEq] at hplace
    rcases hplace with ⟨rfl, -, -⟩ | ⟨rfl, -, -⟩
    · exact ⟨_, rfl, maybe "fields" (by simp [Kind.model, Intent.schema, Intent.addEndpoint]) rfl
        (by decide)⟩
    · exact ⟨_, rfl, maybe "request_fields"
        (by simp [Kind.model, Intent.schema, Intent.addEndpoint]) rfl (by decide)⟩
  | _ => simp [fieldPlaces] at hplace

/-- Of an accepted intent, take a field whose type is resolved, and whose name does not occur before
it where names may not occur again. If nothing changes but that the field has an unknown word for
its type and no relation, then the errors about what the intent means are those that there were,
with the error about that type among them; and a new entity whose only key the field was has the
error that it has no key besides. Both intents may also be misused, and then in the same way. Only a
word with halves of pairs cannot be told, and keeps the changed intent from an envelope and from a
rejection. The change can be made to an intent in JSON, and it is accepted again. -/
theorem semanticErrors_retyped (c : Context) (now : DateTime)
    (hplace : (key, checks, owner) ∈ fieldPlaces k p) (hs : s.read k.model = .ok p)
    (hp : Intent.Accepted k.model p) (hf : (p.fields key)[n]? = some f) (ht : HasType f owner t)
    (hnew : checks.duplicates = true → f.name ∉ ((p.fields key).take n).map (·.name))
    (hword : IsUnknownWord word) :
    (∀ s' p', s'.read k.model = .ok p' → IsRetyped p p' key n f word →
      (Text.isTorn word = false →
        (∃ m, (ofKind k c now s).result = .error (.misused m) ∧
          (ofKind k c now s').result = .error (.misused m)) ∨
        IsInserted (typeError (f.retyped word) (.unknown word) ("$." ++ key ++ s!"[{n}]"))
          (lostKey k p f.name) (semanticErrors (ofKind k c now s).result)
          (semanticErrors (ofKind k c now s').result)) ∧
      (Text.isTorn word = true → ∃ m, (ofKind k c now s').result = .error (.misused m))) ∧
    ∀ v, s = .plain v → v.IsJson → ∃ p', Intent.parse k.model
      (Intent.retypeAt key n word v) = .ok p' ∧ IsRetyped p p' key n f word := by
  have hname := (sound_of_mem_fieldPlaces hplace hp f (List.mem_of_getElem? hf)).name_proper.whole
  constructor
  · intro s' p' hs' h
    constructor
    · intro hwhole
      obtain ⟨d, d', hd, hd', hisolated⟩ :=
        isIsolated_of_mem_fieldPlaces (c := c) hplace hp h hf ht ⟨hname, hwhole, hword⟩ hnew
      have hsame : d'.misuse? = d.misuse? :=
        hisolated.misuse? ((isTorn_typeError_retyped hname _).trans hwhole)
          fun x hx => isTorn_of_mem_lostKey hx
      cases hm : d.misuse? with
      | some m =>
        exact .inl ⟨m, ofKind_of_misuse hs hd hm, ofKind_of_misuse hs' hd' (hsame.trans hm)⟩
      | none =>
        right
        rw [ofKind_of_ofPart hs hd hm, ofKind_of_ofPart hs' hd' (hsame.trans hm),
          semanticErrors_settle hd (coded_errors_of_mem_fieldPlaces hplace hd),
          semanticErrors_settle hd' (coded_errors_of_mem_fieldPlaces hplace hd')]
        exact hisolated.errors
    · intro htorn
      exact (exists_misused_iff now).mpr
        ⟨p', .torn, hs', unusable_of_retyped hplace h hf hname hword htorn hnew⟩
  · rintro v rfl hv
    obtain ⟨g, rfl, hg⟩ := listsFields_of_mem_fieldPlaces hplace
    have hp : v.checker Intent.schema levelLimit (.model k.model) = .ok p := by
      rw [← Value.check_eq_checker]
      exact hs
    obtain ⟨es, rfl⟩ := exists_obj_of_checker hv hp
    obtain ⟨p', hp', h⟩ := Intent.checker_retypeAt word hg hv hp hf
    exact ⟨p', by rw [Intent.parse, Value.check_eq_checker, hp'], h⟩

/-- A new entity with a key and another field. -/
def profile : Value :=
  .obj [("kind", .str "add_entity"), ("scope", .str "data"), ("entity", .str "Profile"),
    ("fields", .list [
      .obj [("name", .str "id"), ("type", .str "integer"), ("required", .bool true)],
      .obj [("name", .str "bio"), ("type", .str "text")]])]

/-- Where the key of the entity gets an unknown type, there is an error about that and one that
there is no key. -/
theorem semanticErrors_retyped_profile :
    let c : Context := ⟨"intent", "project", "0.1.0", none, none, ⟨true, .snake⟩⟩
    let now : DateTime := ⟨⟨2024, 1, 2⟩, 12, 0, 0, 0, none⟩
    semanticErrors (ofKind .addEntity c now (.plain profile)).result = [] ∧
      (semanticErrors (ofKind .addEntity c now
        (.plain (Intent.retypeAt "fields" 0 "money" profile))).result).map
          (fun d => (d.code, d.path)) =
        [("IR021", "$.fields[0].type"), ("IR022", "$.fields")] := by
  intro c now
  have accepted : (ofKind .addEntity c now (.plain profile)).result.toOption.map (fun _ => ()) =
      some () := by decide +kernel
  have read : (Intent.parse .addEntity profile).toOption.map (fun p =>
      ((Intent.AddEntity.ofPart p).entity, keyNames (.ofPart p),
        (p.fields "fields")[0]?.map fun f =>
        (f.name, (typeOf f "Profile").toOption.isSome, (typeMisuse? f "Profile").isNone))) =
      some ("Profile", ["id"], some ("id", true, true)) := by decide +kernel
  have clean : semanticErrors (ofKind .addEntity c now (.plain profile)).result =
    [] := by decide +kernel
  obtain ⟨ir, hir, -⟩ := Option.map_eq_some_iff.mp accepted
  obtain ⟨p, hp, hread⟩ := Option.map_eq_some_iff.mp read
  simp only [Prod.mk.injEq, Option.map_eq_some_iff] at hread
  obtain ⟨hentity, hkeys, f, hf, hname, htype, hmisuse⟩ := hread
  obtain ⟨t, ht⟩ := Option.isSome_iff_exists.mp htype
  have typed : HasType f (Intent.AddEntity.ofPart p).entity t :=
    hentity ▸ ⟨eq_ok_of_toOption ht, Option.isNone_iff_eq_none.mp hmisuse⟩
  obtain ⟨isolated, editable⟩ := semanticErrors_retyped c now (k := .addEntity)
    (s := .plain profile) (List.mem_singleton.mpr rfl) (eq_ok_of_toOption hp)
    (Intent.accepted_of_parse (eq_ok_of_toOption hp)) hf typed (fun _ => by simp)
    (show IsUnknownWord "money" from ⟨by decide, by decide⟩)
  obtain ⟨p', hp', h⟩ := editable profile rfl (by simp [profile])
  refine ⟨clean, ?_⟩
  rcases (isolated (.plain (Intent.retypeAt "fields" 0 "money" profile)) p' hp' h).1
    (by decide) with
    ⟨m, hm, -⟩ | ⟨before, later, after, hold, hnew⟩
  · simp [hm, Except.toOption] at hir
  · rw [clean] at hold
    simp only [List.nil_eq, List.append_eq_nil_iff] at hold
    obtain ⟨⟨rfl, rfl⟩, rfl⟩ := hold
    rw [hnew]
    simp [lostKey, hkeys, hname, primaryError, typeError]
    rfl

end Resolution

end SchemaIntents
