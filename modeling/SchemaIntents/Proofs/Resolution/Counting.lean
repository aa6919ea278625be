import SchemaIntents.Proofs.Draft.Entity
import SchemaIntents.Proofs.Draft.Moments
import SchemaIntents.Proofs.Resolution.Isolation
import SchemaIntents.Proofs.Resolved.Counting

/-! How the default that counts up is spelled. Any case and any space around the word make it the
default of a field; but a field is a key by its default only if the word is spelled in small letters
without space. So what comes of a new entity may hang on the spelling. -/
namespace SchemaIntents

open Intent (AuthoredField Kind Submission countingWord)
open Resolved
open Shape

namespace Draft

variable {c : Context} {i : Intent.AddEntity} {n : Nat} {f : AuthoredField} {w : String}
  {now now' : DateTime} {l : Nat}

/-- Values in which the same is found come to the same where nothing is left of them. -/
theorem fieldOutcome_erased {f : Field Ir.Name} {es es' : List (String × Value)} {a b : Value}
    {issues : List Issue} {h : Ir.Part → Ir.Part} {j : Ir.Part} (hj : ∀ i, h i = j)
    (ha : Value.find? f.wire es = some a) (hb : Value.find? f.wire es' = some b)
    (hfound : Finds (a.checker Ir.schema (l - f.level) f.shape) issues)
    (hfound' : Finds (b.checker Ir.schema (l - f.level) f.shape) issues) :
    (fieldOutcome Ir.schema l (textKeyed es) f).map h =
      (fieldOutcome Ir.schema l (textKeyed es') f).map h := by
  rw [fieldOutcome_of_find? ha, fieldOutcome_of_find? hb, map_under, map_under]
  rcases hfound.ok_or_error with ⟨i, hi, rfl⟩ | ⟨hi, hne⟩
  · obtain ⟨i', hi'⟩ := hfound'
    rw [hi, hi']
    simp only [Except.map, hj]
  · rw [hi, (finds_of_ne_nil hne).mp hfound']

/-- In fields of the same types the same is found. -/
theorem exists_finds_fields {rs rs' : List Resolved.Field} (hsound : ∀ r ∈ rs, r.Sound)
    (hsound' : ∀ r ∈ rs', r.Sound) (htypes : rs'.map (·.type) = rs.map (·.type)) {least : Nat}
    (hlen : least ≤ rs.length) (hl : 2 ≤ l) : ∃ issues,
      Finds ((Value.list (rs.map Resolved.Field.toValue)).checker Ir.schema l
        (.list least (.model .field))) issues ∧
      Finds ((Value.list (rs'.map Resolved.Field.toValue)).checker Ir.schema l
        (.list least (.model .field))) issues := by
  choose! found hfound using fun (t : FieldType) (ht : t.Sound) =>
    (decides_fieldType (l := l - 1) ht (by omega)).imp fun _ => And.left
  let foundAt (e : FieldType × Nat) : List Issue :=
    (found e.1).map fun i => (i.under (.key "type")).under (.index e.2)
  have listed (rs : List Resolved.Field) (hs : ∀ r ∈ rs, r.Sound) (hlen : least ≤ rs.length) :
      Finds ((Value.list (rs.map Resolved.Field.toValue)).checker Ir.schema l
        (.list least (.model .field))) ((rs.map (·.type)).zipIdx.flatMap foundAt) := by
    have hitems := finds_map hlen fun r hr =>
      finds_field (hs r hr) (hfound r.type (hs r hr).type_sound)
    rw [List.zipIdx_map, List.flatMap_map]
    simp only [List.map_map] at hitems
    exact hitems
  have hlen' : rs'.length = rs.length := by simpa using congrArg List.length htypes
  exact ⟨_, listed rs hsound hlen, htypes ▸ listed rs' hsound' (hlen'.symm ▸ hlen)⟩

/-- A field of an entity, unless it is the storage or the list of fields. -/
def besidesFields (f : Field Ir.Name) (i : Ir.Part) : Ir.Part :=
  if f.name = "storage" ∨ f.name = "fields" then .plain .null else i

/-- Entities that differ in their fields and keys alone come to the same apart from these, if in
these the same is found. -/
theorem entity_alter {table : String} {rs rs' : List Resolved.Field} {ks : List Constraint}
    {found found' : List Issue}
    (hstorage : Finds ((storage i table ((rs.filter (·.primary)).map (·.name))).checker Ir.schema l
      (.model .storage)) found)
    (hstorage' : Finds ((storage i table ((rs'.filter (·.primary)).map (·.name))).checker Ir.schema
      l (.model .storage)) found)
    (hfields : Finds ((Value.list (rs.map Resolved.Field.toValue)).checker Ir.schema l
      (.list 1 (.model .field))) found')
    (hfields' : Finds ((Value.list (rs'.map Resolved.Field.toValue)).checker Ir.schema l
      (.list 1 (.model .field))) found') :
    ((entity c i table rs ks).checker Ir.schema l (.model .entity)).map
        (Instance.alter Ir.schema besidesFields) =
      ((entity c i table rs' ks).checker Ir.schema l (.model .entity)).map
        (Instance.alter Ir.schema besidesFields) := by
  obtain ⟨rest, hentity⟩ : ∃ rest, ∀ rs, entity c i table rs ks = .obj (("name", .str i.entity) ::
      ("storage", storage i table ((rs.filter (·.primary)).map (·.name))) ::
      ("fields", .list (rs.map Resolved.Field.toValue)) :: rest) := ⟨_, fun _ => rfl⟩
  have others : ∀ f ∈ (Ir.schema .entity).fields, ¬ (f.name = "storage" ∨ f.name = "fields") →
      f.wire ≠ "storage" ∧ f.wire ≠ "fields" := by decide
  rw [hentity, hentity]
  refine checker_alter rfl rfl fun f hf => ?_
  by_cases hname : f.name = "storage" ∨ f.name = "fields"
  · have erased (j : Ir.Part) : besidesFields f j = .plain .null := if_pos hname
    rcases hname with hname | hname
    · obtain rfl := List.inj_on_of_nodup_map (Ir.names_nodup .entity) hf
        (show .required "storage" "storage" (.model Ir.Name.storage) ∈
          _ by simp [Ir.schema, Ir.entity]) hname
      exact fieldOutcome_erased erased rfl rfl hstorage hstorage'
    · obtain rfl := List.inj_on_of_nodup_map (Ir.names_nodup .entity) hf
        (show .required "fields" "fields" (.list 1 (.model .field)) ∈
          _ by simp [Ir.schema, Ir.entity]) hname
      exact fieldOutcome_erased erased rfl rfl hfields hfields'
  · obtain ⟨hstorage, hfields⟩ := others f hf hname
    simp only [not_or] at hname
    refine congrArg _ (fieldOutcome_congr ?_ ?_)
    · simp [Value.find?, Ne.symm hstorage, Ne.symm hfields]
    · simp [Value.find?, Ne.symm hname.1, Ne.symm hname.2]

section Rewritten

variable {i' : Intent.AddEntity}

theorem body_addEntity (c : Context) (i : Intent.AddEntity) : (addEntity c i).body =
    [("entity", entity c i (tableOf c i).2 (markedFields i)
      (constraints c.options.autoIndex i (markedFields i)).2)] := rfl

theorem find?_of_body (c : Context) (now : DateTime) {d : Draft} {v : Value}
    (hbody : d.body = [("entity", v)]) : Value.find? "entity" (d.entries c now) = some v := by
  rw [find?_entries (k := .addEntity) (by decide), hbody]
  rfl

/-- Only the marks of its fields may change in a new entity whose defaults are written in another
way. -/
theorem body_rewritten (h : IsRewritten i i') : (addEntity c i').body =
    [("entity", entity c i (tableOf c i).2 (markedFields i')
      (constraints c.options.autoIndex i (markedFields i)).2)] := by
  have hconstraints := constraints_congr c.options.autoIndex h (map_markedFields h)
  obtain ⟨gs, -, rfl⟩ := h
  rw [body_addEntity, hconstraints]
  rfl

theorem misuse_rewritten (h : IsRewritten i i') :
    (addEntity c i').misuse = (addEntity c i).misuse := by
  obtain ⟨gs, hgs, rfl⟩ := h
  exact misuseFrom?_congr hgs

theorem addEntity_rewritten (h : IsRewritten i i') (hmarked : markedFields i' = markedFields i) :
    addEntity c i' = addEntity c i := by
  have hbody : (addEntity c i').body = (addEntity c i).body := by
    rw [body_rewritten h, hmarked, body_addEntity]
  have hdiagnostics : (addEntity c i').diagnostics = (addEntity c i).diagnostics := by
    rw [diagnostics_addEntity, diagnostics_addEntity, resolveFields_congr h, hmarked,
      referenceErrors_congr h, constraints_congr _ h rfl]
    obtain ⟨gs, hgs, rfl⟩ := h
    rw [primaryNote_congr hgs]
    rfl
  have hnotes : (addEntity c i').notes = (addEntity c i).notes := by
    obtain ⟨gs, hgs, rfl⟩ := h
    simp [addEntity, hgs.length_eq]
  change (⟨.addEntity, "AddEntity", (addEntity c i').body, (addEntity c i').diagnostics,
    (addEntity c i').notes, none, (addEntity c i').misuse⟩ : Draft) = addEntity c i
  rw [hbody, hdiagnostics, hnotes, misuse_rewritten h]
  rfl

/-- A new entity has the errors that it had, but perhaps for the one that there is no key. -/
theorem errors_rewritten (h : IsRewritten i i') :
    (addEntity c i').diagnostics.filter Diagnostic.isError =
      (resolveFields ⟨true, true⟩ i.entity "$.fields" i.fields).1.filter Diagnostic.isError ++
        (primaryError (keyNames i') ++ referenceErrors i) := by
  rw [errors_addEntity, resolveFields_congr h, referenceErrors_congr h]

/-- Whether a new entity is misused does not change with the spelling of its defaults. -/
theorem misuse?_rewritten (h : IsRewritten i i') (hi : i.Sound) (hi' : i'.Sound) :
    (addEntity c i').misuse? = (addEntity c i).misuse? := by
  have told {i : Intent.AddEntity} (hi : i.Sound) :
      ((addEntity c i).diagnostics.filter (!·.isError)).any (fun d => Text.isTorn d.message) =
        false :=
    any_remarks_eq_false fun d hd herr => isTorn_of_mem_addEntity hi hd herr
  have keyless (keys : List String) :
      (primaryError keys).any (fun d => Text.isTorn d.message) = false := by
    unfold primaryError
    split <;> simp +decide
  rw [misuse?, misuse?, misuse_rewritten h, firstMisuse?_eq_ite, firstMisuse?_eq_ite, any_torn_eq,
    any_torn_eq (addEntity c i).diagnostics, told hi, told hi', errors_rewritten h,
      errors_addEntity]
  simp only [List.any_append, keyless]

/-- A field of the envelope of a new entity, without the moment, the storage and the fields, and
without what was reported. -/
def besidesMarks (f : Field Ir.Name) (j : Ir.Part) : Ir.Part :=
  if f.name = "provenance" then j.alter Ir.schema Ir.Part.timeless
  else if f.name = "entity" then j.alter Ir.schema besidesFields
  else .list []

theorem entityOutcome_alter (h : IsRewritten i i') (hn : IsNamed c i) (hn' : IsNamed c i')
    {f : Field Ir.Name} (hf : f ∈ ownFields .addEntity) :
    (fieldOutcome Ir.schema levelLimit (textKeyed ((addEntity c i).entries c now)) f).map
        (besidesMarks f) =
      (fieldOutcome Ir.schema levelLimit (textKeyed ((addEntity c i').entries c now')) f).map
        (besidesMarks f) := by
  have hown : ownFields .addEntity = [.required "entity" "entity" (.model .entity)] := rfl
  obtain rfl := List.mem_singleton.mp (hown ▸ hf)
  have hfind := find?_of_body c now (body_addEntity c i)
  have hfind' := find?_of_body c now' (body_rewritten (c := c) h)
  rw [fieldOutcome_of_find? (f := .required "entity" "entity" (.model Ir.Name.entity)) hfind,
    fieldOutcome_of_find? (f := .required "entity" "entity" (.model Ir.Name.entity)) hfind',
      map_under,
    map_under]
  have htypes : (markedFields i').map (·.type) = (markedFields i).map (·.type) := by
    have hsame := congrArg (List.map (·.2)) (map_markedFields h)
    rwa [List.map_map, List.map_map] at hsame
  obtain ⟨found, hfields, hfields'⟩ := exists_finds_fields (l := levelLimit) hn.fields_sound
    hn'.fields_sound htypes hn.fields_some (by decide)
  exact congrArg _ (entity_alter (finds_storage _ hn.keys_some hn.keys_proper hn.tenant_proper)
    (finds_storage _ hn'.keys_some hn'.keys_proper hn.tenant_proper) hfields hfields')

theorem reports_alter {ds ds' : List Diagnostic} (hds : ∀ d ∈ ds, d.IsOwn)
    (hds' : ∀ d ∈ ds', d.IsOwn)
    (hwhole : ∀ d ∈ ds, Text.isTorn d.message = false)
      (hwhole' : ∀ d ∈ ds', Text.isTorn d.message = false)
    {f : Field Ir.Name} (hf : f.name = "diagnostics") :
    ((Value.list (ds.map Diagnostic.toValue)).checker Ir.schema l
        (.list 0 (.model .diagnostic))).map (besidesMarks f) =
      ((Value.list (ds'.map Diagnostic.toValue)).checker Ir.schema l
        (.list 0 (.model .diagnostic))).map (besidesMarks f) := by
  obtain ⟨is, his⟩ := fits_diagnostics (l := l) hds hwhole
  obtain ⟨is', his'⟩ := fits_diagnostics (l := l) hds' hwhole'
  rw [his, his']
  simp [Except.map, besidesMarks, hf]

/-- Where nothing is wrong with a new entity, however its defaults are written, it fits an envelope
both times, or finds the same issues. -/
theorem payload_rewritten (h : IsRewritten i i') (hi : i.Sound) (hi' : i'.Sound) (ht : now.IsValid)
    (ht' : now'.IsValid) (herr : (addEntity c i).diagnostics.any Diagnostic.isError = false)
    (herr' : (addEntity c i').diagnostics.any Diagnostic.isError = false) :
    (∃ issues, ((addEntity c i).payload c now).checker Ir.schema levelLimit (.model .addEntity) =
          .error issues ∧
        ((addEntity c i').payload c now').checker Ir.schema levelLimit (.model .addEntity) =
          .error issues) ∨
      ∃ ir ir', ((addEntity c i).payload c now).checker Ir.schema levelLimit
        (.model .addEntity) = .ok ir ∧
        ((addEntity c i').payload c now').checker Ir.schema levelLimit (.model .addEntity) =
          .ok ir' := by
  have hn := isNamed_of_any hi herr
  have hn' := isNamed_of_any hi' herr'
  have hkeys : ∀ e ∈ (addEntity c i).body, e.1 ∈ (ownFields .addEntity).map (·.wire) := by
    rw [body_addEntity, List.forall_mem_singleton]
    exact List.mem_singleton.mpr rfl
  have hbody : (addEntity c i).body.map (·.1) = (addEntity c i').body.map (·.1) := by
    rw [body_addEntity, body_rewritten h]
    rfl
  have hkind : (addEntity c i).kind = (addEntity c i').kind := rfl
  have told {i : Intent.AddEntity} (hi : i.Sound)
      (herr : (addEntity c i).diagnostics.any Diagnostic.isError = false) :
      ∀ d ∈ (addEntity c i).diagnostics, Text.isTorn d.message = false := fun d hd =>
    isTorn_of_mem_addEntity hi hd (by simpa using List.any_eq_false.mp herr d hd)
  have halter := entries_alter (k := .addEntity) (c := c)
    (g := besidesMarks) hkind hbody hkeys ht ht' (fun f hf => funext fun j => if_pos hf)
    (fun f hf => entityOutcome_alter h hn hn' hf)
    (fun f hf => reports_alter (isOwn_addEntity c i) (isOwn_addEntity c i') (told hi herr)
      (told hi' herr') hf)
  rcases map_eq_map halter with herror | ⟨ir, ir', hir, hir', -⟩
  · exact .inl herror
  · exact .inr ⟨ir, ir', hir, hir'⟩

end Rewritten

section Keys

variable {t : FieldType} {i' : Intent.AddEntity}

/-- With the other spelling, a field on whose spelling something hangs is a key. -/
theorem keyNames_respelled (hf : i.fields[n]? = some f) (hfw : f.default = .str w)
    (hw : Text.normalize w = "autoincrement") (h : HangsOnSpelling i n f) :
    keyNames (i.respelled n) ≠ [] := by
  obtain ⟨t, ht⟩ := h.typed
  have hresolved : Field.ofAuthored f t ∈
      (resolveFields ⟨true, true⟩ i.entity "$.fields" i.fields).2 :=
    (mem_resolveFrom rfl).mpr ⟨List.not_mem_nil, f, t, find?_of_new hf h.first, ht, rfl⟩
  have hkey : namesKey (i.respelled n).fields f.name = true := by
    rw [namesKey, i.fields_respelled, find?_modify_self hf _ h.first]
    exact isPrimary_counting f
  rw [keyNames, keys_markedFields, resolveFields_congr (isRewritten_respelled hf hfw hw)]
  exact List.ne_nil_of_mem (List.mem_filter.mpr ⟨List.mem_map_of_mem hresolved, hkey⟩)

/-- The field at a position is read in the envelope with the default that it is marked with. -/
theorem exists_field_of_settle {ir : Ir.Part} (h : IsRewritten i i')
    (hs : (addEntity c i').settle c now = .ok ir) (hf : i.fields[n]? = some f)
    (ht : typeOf f i.entity = .ok t) :
    ∃ q, (Ir.Part.fields (ir.get "entity"))[n]? = some q ∧
      (q.get "default").isNull = (markPrimary i'.fields (Field.ofAuthored f t)).default.isNone := by
  have hfields := (of_any_addEntity (settle_eq_ok hs).1).1
  rw [resolveFields_congr h] at hfields
  obtain ⟨r, hr, t', ht', rfl⟩ := exists_getElem?_of_forall₂ (forall₂_resolveFrom hfields) hf
  obtain rfl := Except.ok.inj (ht'.symm.trans ht)
  have hmarked : (markedFields i')[n]? = some (markPrimary i'.fields (Field.ofAuthored f t')) := by
    rw [markedFields, resolveFields_congr h, List.getElem?_map, resolveFields, hr]
    rfl
  have hentity := checker_of_settle (k := .addEntity) rfl rfl (body_addEntity c i') hs
  obtain ⟨q, hq, hread⟩ := exists_getElem?_of_forall₂ (fields_entity hentity) hmarked
  exact ⟨q, hq, hread.default⟩

/-- Envelopes between which a spelling decides are not the same: in one of them the field has a
default, in the other it has none. -/
theorem undated_ne_of_settle {ir ir' : Ir.Part} (hf : i.fields[n]? = some f)
    (hfw : f.default = .str w) (hw : Text.normalize w = "autoincrement") (h : HangsOnSpelling i n f)
    (hs : (addEntity c i).settle c now = .ok ir)
    (hs' : (addEntity c (i.respelled n)).settle c now' = .ok ir') : ir.undated ≠ ir'.undated := by
  intro hsame
  obtain ⟨t, ht⟩ := h.typed
  obtain ⟨hkept, hlost⟩ := default_markPrimary_respelled hf hfw hw h t
  have hrefl : IsRewritten i i :=
    ⟨i.fields, List.forall₂_same.mpr fun g _ => SameDefault.refl g, rfl⟩
  obtain ⟨q, hq, hdefault⟩ := exists_field_of_settle hrefl hs hf ht
  obtain ⟨q', hq', hdefault'⟩ := exists_field_of_settle (isRewritten_respelled hf hfw hw) hs' hf ht
  have hentity := congrArg (Ir.Part.get · "entity") hsame
  simp only [Ir.Part.get_undated (show "entity" ≠ "provenance" by decide)] at hentity
  rw [hentity] at hq
  obtain rfl := Option.some.inj (hq.symm.trans hq')
  rw [hdefault, hkept, hlost] at hdefault'
  cases hdefault'

end Keys

end Draft

namespace Resolution

open Draft

/-- What two intents come to is alike: the same envelope apart from the moment when it was made, or
a refusal for the same errors. -/
inductive Alike : Resolution → Resolution → Prop
  | made {ir ir' : Ir.Part} : ir.undated = ir'.undated → Alike (.ok ir) (.ok ir')
  | rejected {r r' : Rejection} : r.errors = r'.errors →
      Alike (.error (.rejected r)) (.error (.rejected r'))
  | unsupported {r r' : Rejection} : r.errors = r'.errors →
      Alike (.error (.unsupported r)) (.error (.unsupported r'))
  | misused {m : Misuse} : Alike (.error (.misused m)) (.error (.misused m))

variable {c : Context} {now now' : DateTime} {i i' : Intent.AddEntity} {n : Nat} {f : AuthoredField}
  {w : String} {d d' : Draft}

/-- One draft comes to alike outcomes at whatever moments. -/
theorem alike_settle {k : Kind} {p : Intent.Part} (hd : Draft.ofPart k c p = .ok d)
    (ht : now.IsValid) (ht' : now'.IsValid) : Alike ((d.settle c now).mapError Refusal.rejected)
      ((d.settle c now').mapError Refusal.rejected) := by
  rcases map_eq_map (settle_undated (c := c) (draft_kind hd).1 (keys_body hd) ht ht') with
    ⟨r, hr, hr'⟩ | ⟨ir, ir', hir, hir', hsame⟩
  · rw [hr, hr']
    exact .rejected rfl
  · rw [hir, hir']
    exact .made hsame

theorem settle_of_any (h : d.diagnostics.any Diagnostic.isError = true) :
    d.settle c now = .error (d.reject d.diagnostics) := by
  rw [settle, if_pos h]

theorem settle_of_checker {m : Ir.Name} {x : Checked Ir.Name} (hm : d.model = m)
    (herr : d.diagnostics.any Diagnostic.isError = false)
    (hx : (d.payload c now).checker Ir.schema levelLimit (.model m) = x) :
    d.settle c now = x.mapError fun issues =>
      d.reject (d.diagnostics ++ reportIssues "IR099" "IR validation failed: " issues) := by
  subst hm hx
  rw [settle, if_neg (by simp [herr]), Value.check_eq_checker]
  cases (d.payload c now).checker Ir.schema levelLimit (.model d.model) <;> rfl

/-- The errors of a rejection are those of the draft, or say that it does not fit. -/
theorem mem_errors_of_settle {r : Rejection} {x : Diagnostic} (h : d.settle c now = .error r)
    (hx : x ∈ r.errors) : x ∈ d.diagnostics.filter Diagnostic.isError ∨ x.code = "IR099" := by
  unfold settle at h
  split at h
  · obtain rfl := Except.error.inj h
    exact .inl hx
  · split at h
    · simp at h
    · obtain rfl := Except.error.inj h
      simp only [Rejection.errors, reject, List.filter_append, List.mem_append] at hx
      refine hx.imp_right fun hx => ?_
      obtain ⟨issue, -, rfl⟩ := List.mem_map.mp (List.mem_of_mem_filter hx)
      rfl

/-- An error about a key that is only there with one spelling tells the outcomes apart. -/
theorem not_alike_of_keyless (h : IsRewritten i i') (hkeys : keyNames i = [])
    (hkeys' : keyNames i' ≠ []) : ¬ Alike (((addEntity c i).settle c now).mapError Refusal.rejected)
      (((addEntity c i').settle c now').mapError Refusal.rejected) := by
  have hmissing : primaryError [] ⊆ (addEntity c i).diagnostics.filter Diagnostic.isError := by
    rw [errors_addEntity, hkeys]
    exact List.subset_append_of_subset_right _ (List.subset_append_left _ _)
  have herr : (addEntity c i).diagnostics.any Diagnostic.isError = true := by
    obtain ⟨hmem, herror⟩ := List.mem_filter.mp (hmissing (List.mem_singleton.mpr rfl))
    exact List.any_eq_true.mpr ⟨_, hmem, herror⟩
  rw [settle_of_any herr]
  intro halike
  cases hs' : (addEntity c i').settle c now' with
  | ok ir' =>
    rw [hs'] at halike
    cases halike
  | error r' =>
    rw [hs'] at halike
    cases halike with
    | rejected hsame =>
      have hx : (primaryError [])[0] ∈ r'.errors := hsame ▸ hmissing (List.mem_singleton.mpr rfl)
      rcases mem_errors_of_settle hs' hx with hx | hx
      · rw [errors_rewritten h, primaryError, if_neg (by simpa using hkeys'), List.nil_append,
          List.mem_append] at hx
        rcases hx with hx | hx
        · have hcode := coded_resolveFrom _ _ _ _ _ _ _ (List.mem_of_mem_filter hx)
          simp [primaryError, fieldCodes] at hcode
        · have hcode := coded_referenceErrors i _ hx
          simp [primaryError] at hcode
      · simp [primaryError] at hx

/-- Drafts with the same errors, which find the same issues if they have none, are refused alike. If
they are never made the same, then just that makes them alike. -/
theorem alike_settle_iff {m : Ir.Name} (hm : d.model = m) (hm' : d'.model = m)
    (herrors : d.diagnostics.filter Diagnostic.isError = d'.diagnostics.filter Diagnostic.isError)
    (hchecked : d.diagnostics.any Diagnostic.isError = false →
      d'.diagnostics.any Diagnostic.isError = false →
      (∃ issues, (d.payload c now).checker Ir.schema levelLimit (.model m) = .error issues ∧
          (d'.payload c now').checker Ir.schema levelLimit (.model m) = .error issues) ∨
        ∃ ir ir', (d.payload c now).checker Ir.schema levelLimit (.model m) = .ok ir ∧
          (d'.payload c now').checker Ir.schema levelLimit (.model m) = .ok ir')
    (hdiffer : ∀ ir ir', d.settle c now = .ok ir → d'.settle c now' = .ok ir' →
      ir.undated ≠ ir'.undated) :
    Alike ((d.settle c now).mapError Refusal.rejected)
      ((d'.settle c now').mapError Refusal.rejected) ↔ ∀ ir, d.settle c now ≠ .ok ir := by
  have hany : d.diagnostics.any Diagnostic.isError = d'.diagnostics.any Diagnostic.isError := by
    simpa using congrArg (List.any · Diagnostic.isError) herrors
  cases herr : d.diagnostics.any Diagnostic.isError with
  | true =>
    rw [settle_of_any herr, settle_of_any (hany.symm.trans herr)]
    exact iff_of_true (.rejected herrors) fun ir => by simp
  | false =>
    have herr' := hany.symm.trans herr
    rcases hchecked herr herr' with ⟨issues, hx, hx'⟩ | ⟨ir, ir', hir, hir'⟩
    · rw [settle_of_checker hm herr hx, settle_of_checker hm' herr' hx']
      refine iff_of_true (.rejected ?_) fun ir => by simp [Except.mapError]
      simp only [Rejection.errors, reject, List.filter_append, herrors]
    · have hs := settle_of_checker hm herr hir
      have hs' := settle_of_checker hm' herr' hir'
      refine iff_of_false (fun halike => ?_) fun hnone => hnone ir hs
      rw [hs, hs'] at halike
      cases halike with
      | made hsame => exact hdiffer ir ir' hs hs' hsame

section Respelled

variable {s s' : Submission} {v : Value} {p p' : Intent.Part}

/-- An intent with another default in one of its fields is read as the new entity with that
default. -/
theorem ofPart_respelled (h : Intent.GetsDefault p p' "fields" n countingWord) :
    Intent.AddEntity.ofPart p' = (Intent.AddEntity.ofPart p).respelled n := by
  simp (disch := decide) only [Intent.AddEntity.ofPart, Intent.AddEntity.respelled,
    Intent.Labels.ofPart, Intent.Part.text, Intent.Part.some?, Intent.Part.text?,
      Intent.Part.texts?,
    Intent.Part.items?, Intent.Part.part?, h.others, h.fields]

/-- Of a new entity on one of whose spellings something hangs, the outcome does not change with the
spelling just where the entity has a key and is refused. -/
theorem alike_hanging_iff (hi : i.Sound) (hi' : (i.respelled n).Sound) (ht : now.IsValid)
    (ht' : now'.IsValid) (hf : i.fields[n]? = some f) (hfw : f.default = .str w)
    (hw : Text.normalize w = "autoincrement") (h : HangsOnSpelling i n f) :
    Alike (((addEntity c i).settle c now).mapError Refusal.rejected)
        (((addEntity c (i.respelled n)).settle c now').mapError Refusal.rejected) ↔
      keyNames i ≠ [] ∧ ∀ ir, (addEntity c i).settle c now ≠ .ok ir := by
  have hr := isRewritten_respelled hf hfw hw
  have hkeys' := keyNames_respelled hf hfw hw h
  by_cases hkeys : keyNames i = []
  · exact iff_of_false (not_alike_of_keyless hr hkeys hkeys') fun hboth => hboth.1 hkeys
  have keyed {keys : List String} (h : keys ≠ []) : primaryError keys = [] := by
    rw [primaryError, if_neg (by simpa using h)]
  have herrors : (addEntity c i).diagnostics.filter Diagnostic.isError =
      (addEntity c (i.respelled n)).diagnostics.filter Diagnostic.isError := by
    rw [errors_rewritten hr, errors_addEntity, keyed hkeys, keyed hkeys']
  rw [alike_settle_iff (m := .addEntity) rfl rfl herrors (payload_rewritten hr hi hi' ht ht')
    fun ir ir' => undated_ne_of_settle hf hfw hw h, and_iff_right hkeys]

/-- The spelling of a default decides what becomes of an intent that is accepted just where
something hangs on it, nothing is misused, and the entity has no key or is made. -/
theorem not_alike_iff_of_read (hp : s.read Kind.addEntity.model = .ok p)
    (hp' : s'.read Kind.addEntity.model = .ok p')
      (h : Intent.GetsDefault p p' "fields" n countingWord)
    (hi : (Intent.AddEntity.ofPart p).Sound) (hi' : (Intent.AddEntity.ofPart p').Sound)
      (ht : now.IsValid)
    (ht' : now'.IsValid) (hf : (p.fields "fields")[n]? = some f) (hfw : f.default = .str w)
    (hw : Text.normalize w = "autoincrement") :
    ¬ Alike (ofKind .addEntity c now s).result (ofKind .addEntity c now' s').result ↔
      HangsOnSpelling (.ofPart p) n f ∧ (∀ m, (ofKind .addEntity c now s).result ≠
        .error (.misused m)) ∧
        (keyNames (.ofPart p) = [] ∨ ∃ ir, (ofKind .addEntity c now s).result = .ok ir) := by
  have hrespelled := ofPart_respelled h
  have hd : Draft.ofPart .addEntity c p = .ok (addEntity c (.ofPart p)) := rfl
  have hd' : Draft.ofPart .addEntity c p' = .ok (addEntity c (.ofPart p')) := rfl
  rw [hrespelled] at hd' hi'
  have hrewritten : IsRewritten (.ofPart p) ((Intent.AddEntity.ofPart p).respelled n) :=
    isRewritten_respelled hf hfw hw
  have hmisuse := misuse?_rewritten (c := c) hrewritten hi hi'
  have hf : (Intent.AddEntity.ofPart p).fields[n]? = some f := hf
  generalize Intent.AddEntity.ofPart p = i at *
  cases hm : (addEntity c i).misuse? with
  | some m =>
    rw [ofKind_of_misuse hp hd hm, ofKind_of_misuse hp' hd' (hmisuse.trans hm)]
    exact iff_of_false (fun h => h .misused) fun h => h.2.1 m rfl
  | none =>
    rw [ofKind_of_ofPart hp hd hm, ofKind_of_ofPart hp' hd' (hmisuse.trans hm)]
    by_cases hhangs : HangsOnSpelling i n f
    · rw [alike_hanging_iff hi hi' ht ht' hf hfw hw hhangs, and_iff_right hhangs]
      cases hsettle : (addEntity c i).settle c now <;> simp [Except.mapError]
    · rw [addEntity_rewritten hrewritten (markedFields_respelled hf hfw hw hhangs)]
      exact iff_of_false (fun h => h (alike_settle hd ht ht')) fun h => hhangs h.1

/-- A field of a new entity has a default that counts up, in some spelling. With the word spelled in
small letters without space, and at another moment, the entity comes to something else just where
the field is resolved and does not count up anyway, nothing in the entity is misused, and the entity
has no key or is made: with the other spelling it has a key, or the field has another default. -/
theorem not_alike_respelled_iff (c : Context) (ht : now.IsValid) (ht' : now'.IsValid)
    (hat : v.at? (Intent.defaultPlace "fields" n) = some (.str w))
    (hw : Text.normalize w = "autoincrement")
    (hs : s.read Kind.addEntity.model = Intent.parse Kind.addEntity.model v)
    (hs' : s'.read Kind.addEntity.model = Intent.parse Kind.addEntity.model
      (v.replace (Intent.defaultPlace "fields" n) countingWord)) :
    let r := (ofKind .addEntity c now s).result
    let r' := (ofKind .addEntity c now' s').result
    ¬ Alike r r' ↔ ∃ p f, Intent.parse Kind.addEntity.model v = .ok p ∧
      (Intent.Part.fields p "fields")[n]? = some f ∧ f.default = .str w ∧
      HangsOnSpelling (.ofPart p) n f ∧ (∀ m, r ≠ .error (.misused m)) ∧
      (keyNames (.ofPart p) = [] ∨ ∃ ir, r = .ok ir) := by
  intro r r'
  obtain ⟨g, hg, hlists⟩ := listsFields_of_mem_fieldPlaces (k := .addEntity) (p := .plain .null)
    (List.mem_singleton.mpr rfl)
  have hread := Intent.checker_redefault (l := levelLimit) hlists (hg ▸ hat) countingWord
  rw [hg] at hread
  simp only [← Value.check_eq_checker] at hread
  rcases hread with ⟨issues, hx, hx'⟩ | ⟨p, p', hp, hp', hdefault⟩
  · have hr : r = .error (.rejected (.ofIssues
      (Intent.schema Kind.addEntity.model).title issues)) := by
      simp only [r, ofKind, hs.trans hx]
    have hr' : r' = .error (.rejected (.ofIssues
      (Intent.schema Kind.addEntity.model).title issues)) := by
      simp only [r', ofKind, hs'.trans hx']
    rw [hr, hr']
    refine iff_of_false (fun h => h (.rejected rfl)) ?_
    rintro ⟨p, -, hp, -⟩
    cases hx.symm.trans hp
  · obtain ⟨f, hf, hfw⟩ := Intent.exists_default_of_at? hlists hp (hg ▸ hat)
    rw [hg] at hf
    rw [not_alike_iff_of_read (hs.trans hp) (hs'.trans hp') hdefault
      (Intent.accepted_of_parse hp).addEntity (Intent.accepted_of_parse hp').addEntity
        ht ht' hf hfw hw]
    constructor
    · exact fun h => ⟨p, f, hp, hf, hfw, h⟩
    · rintro ⟨q, f', hq, hf', -, h⟩
      obtain rfl := Except.ok.inj (hq.symm.trans hp)
      obtain rfl := Option.some.inj (hf'.symm.trans hf)
      exact h

/-- A new entity whose only candidate for a key is a number that counts up, as its default says in
one spelling or another. -/
def ticket (spelling : String) : Value :=
  .obj [("kind", .str "add_entity"), ("scope", .str "data"), ("entity", .str "Ticket"),
    ("fields", .list [
      .obj [("name", .str "number"), ("type", .str "integer"), ("default", .str spelling)],
      .obj [("name", .str "title"), ("type", .str "string")]])]

/-- In one spelling the entity is refused for having no key, in the other it is made. -/
theorem not_alike_respelled_iff_ticket :
    let c : Context := ⟨"intent", "project", "0.1.0", none, none, ⟨true, .snake⟩⟩
    let now : DateTime := ⟨⟨2024, 1, 2⟩, 12, 0, 0, 0, none⟩
    (semanticErrors (ofKind .addEntity c now (.plain (ticket "AutoIncrement"))).result).map
        (·.code) = ["IR022"] ∧
      (∃ ir, (ofKind .addEntity c now (.plain (ticket "autoincrement"))).result = .ok ir) ∧
      ¬ Alike (ofKind .addEntity c now (.plain (ticket "AutoIncrement"))).result
        (ofKind .addEntity c now (.plain (ticket "autoincrement"))).result := by
  intro c now
  have ht : now.IsValid := by decide
  have refused : (semanticErrors (ofKind .addEntity c now
      (.plain (ticket "AutoIncrement"))).result).map (·.code) = ["IR022"] := by decide +kernel
  have made : (ofKind .addEntity c now (.plain (ticket "autoincrement"))).result.isOk = true := by
    decide +kernel
  have read : (Intent.parse Kind.addEntity.model (ticket "AutoIncrement")).toOption.map (fun p =>
      ((Intent.AddEntity.ofPart p).entity, keyNames (.ofPart p),
        (Intent.Part.fields p "fields")[0]?.map
        fun f => ((Instance.plain f.default : Ir.Part).text?, isPrimary f,
          (typeOf f "Ticket").toOption.isSome))) =
      some ("Ticket", [], some (some "AutoIncrement", false, true)) := by decide +kernel
  obtain ⟨p, hp, hread⟩ := Option.map_eq_some_iff.mp read
  simp only [Prod.mk.injEq, Option.map_eq_some_iff] at hread
  obtain ⟨hentity, hkeys, f, hf, hdefault, hprimary, htype⟩ := hread
  obtain ⟨t, ht'⟩ := Option.isSome_iff_exists.mp htype
  have hspelled : f.default = .str "AutoIncrement" := by
    cases hd : f.default <;> simp_all [Instance.text?]
  have hhangs : HangsOnSpelling (.ofPart p) 0 f := by
    refine ⟨by simp, ⟨t, hentity ▸ eq_ok_of_toOption ht'⟩, fun hanyway => ?_⟩
    have := (asPrimary_of_countsUpAnyway hanyway (Field.ofAuthored f t)).1
    simp [hprimary] at this
  refine ⟨refused, exists_eq_ok made, ?_⟩
  refine (not_alike_respelled_iff (n := 0) (v := ticket "AutoIncrement")
    (w := "AutoIncrement") c ht ht rfl (by decide +kernel) rfl rfl).mpr
    ⟨p, f, eq_ok_of_toOption hp, hf, hspelled, hhangs, fun m hm => ?_, .inl hkeys⟩
  rw [hm] at refused
  cases refused

end Respelled

end Resolution
end SchemaIntents
