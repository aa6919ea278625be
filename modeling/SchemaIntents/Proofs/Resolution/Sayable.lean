import SchemaIntents.Proofs.Document.Known
import SchemaIntents.Proofs.Draft.Capability
import SchemaIntents.Proofs.Intent.Faithful
import SchemaIntents.Proofs.Ir.File

/-! What an author writes down freely comes whole into an envelope: JSON can say all that stands
free in an envelope where it can say the intent. -/
namespace SchemaIntents

namespace Value

theorem sayable_ofPresent {es : List (String × Option Value)}
    (h : ∀ e ∈ es, ∀ v ∈ e.2, v.Sayable) : (ofPresent es).Sayable :=
  sayable_obj.mpr fun e he => h _ (Shape.mem_of_mem_presentEntries he) e.2 rfl

theorem sayable_someList {vs : List Value} (h : ∀ v ∈ vs, v.Sayable) :
    ∀ w ∈ someList vs, w.Sayable := by
  unfold someList
  split
  · simp
  · simpa using h

theorem sayable_find? {es : List (String × Value)} (h : ∀ e ∈ es, e.2.Sayable) {key : String}
    {v : Value} (hv : find? key es = some v) : v.Sayable :=
  h _ (mem_of_find? hv)

theorem Sayable.get {v : Value} (h : v.Sayable) (key : String) : (v.get key).Sayable := by
  rw [Value.get]
  cases hv : v.get? key with
  | none => exact .null
  | some w =>
    cases v with
    | obj es => exact sayable_find? (sayable_obj.mp h) hv
    | loop v => cases h.isJson
    | _ => simp [get?] at hv

end Value

namespace Intent

open Instance

variable {l : Nat} {v : Value} {p : Part}

theorem sayable_generators (h : Reads schema l (.model .seed) v p) (hv : v.Sayable) :
    ∀ g ∈ (Seed.ofPart p).generators, g.2.Sayable := by
  intro g hg
  obtain ⟨e, he, rfl⟩ := List.mem_map.mp hg
  have hmem : .maybe "generators" "generators" (.table .mapping) ∈ (schema .seed).fields := by
    simp [schema, seed]
  rw [Part.get] at he
  rcases h.maybe_of_sayable "generators" "generators" names_nodup hv
    hmem with hnull | ⟨k, w, hw, hread⟩
  · simp [hnull, entries] at he
  · generalize p.field schema "generators" = t at hread he
    cases hread with
    | plain hp => simp [Shape.isPlain] at hp
    | table origin ho hread =>
      obtain ⟨es, hes, hsayable⟩ := (hread e he).mapping_of_sayable (hw.of_mem_children (ho e he))
      rw [hes]
      exact Value.sayable_obj.mpr hsayable

theorem sayable_seed (h : Reads schema l (.model .addEntity) v p) (hv : v.Sayable) {s : Seed}
    (hs : (AddEntity.ofPart p).seed = some s) : ∀ g ∈ s.generators, g.2.Sayable := by
  have hmem : .maybe "seed" "seed" (.model .seed) ∈ (schema .addEntity).fields := by
    simp [schema, addEntity]
  simp only [AddEntity.ofPart, Part.part?, Part.get, some?] at hs
  rcases h.maybe_of_sayable "seed" "seed" names_nodup hv hmem with hnull | ⟨k, w, hw, hread⟩
  · simp [hnull, isNull] at hs
  · obtain ⟨q, hq, rfl⟩ := Option.map_eq_some_iff.mp hs
    obtain rfl := Option.some.inj (Option.ite_none_left_eq_some.mp hq).2
    exact sayable_generators hread hw

theorem sayable_config (h : Reads schema l (.model .addCapability) v p) (hv : v.Sayable) :
    ∀ e ∈ (AddCapability.ofPart p).config, e.2.Sayable := by
  have hmem : .maybe "config" "config" .mapping ∈ (schema .addCapability).fields := by
    simp [schema, addCapability]
  simp only [AddCapability.ofPart, Part.mapping?, Part.get]
  rcases h.maybe_of_sayable "config" "config" names_nodup hv hmem with hnull | ⟨k, w, hw, hread⟩
  · simp [hnull, Value.entries?]
  · obtain ⟨es, hes, hsayable⟩ := hread.mapping_of_sayable hw
    simpa [hes, Value.entries?] using hsayable

theorem sayable_mappings (name : String) (h : Reads schema l (.model .addCapability) v p)
    (hv : v.Sayable) (hmem : .maybe name name (.list 0 .mapping) ∈ (schema .addCapability).fields) :
    ∀ w ∈ ((p.items? name).getD []).map Instance.value, w.Sayable := by
  simp only [Part.items?, Part.get]
  rcases h.maybe_of_sayable name name names_nodup hv hmem with hnull | ⟨k, w, hw, hread⟩
  · simp [hnull, items?]
  · exact hread.mappings_of_sayable hw

end Intent

namespace Resolved

open Intent (AddCapability)

theorem sayable_seedValue {s : Intent.Seed} (h : ∀ g ∈ s.generators, g.2.Sayable) :
    (seedValue s).Sayable := by
  refine Value.sayable_ofPresent ?_
  simpa [Option.ite_none_left_eq_some] using fun _ k v hg => h (k, v) hg

namespace Overlay

variable {i : AddCapability}

theorem sayable_truthy? (h : ∀ e ∈ i.config, e.2.Sayable) (key : String) :
    ∀ v ∈ truthy? key i.config, v.Sayable := by
  intro v hv
  exact Value.sayable_find? h (Option.eq_some_of_filter_eq_some hv)

theorem sayable_orElse (h : ∀ e ∈ i.config, e.2.Sayable) (key : String) {fallback : Value}
    (hf : fallback.Sayable) : (orElse key fallback i.config).Sayable := by
  unfold orElse
  cases hv : truthy? key i.config with
  | none => exact hf
  | some v => exact sayable_truthy? h key v hv

theorem sayable_email (h : ∀ e ∈ i.config, e.2.Sayable) : (email i).value.Sayable := by
  have hname := sayable_orElse h "from_name" (.str "Your App")
  refine Value.sayable_ofPresent ?_
  simpa using fun address ha => ⟨sayable_truthy? h "from_email" address ha, hname⟩

theorem sayable_pick {item : Value} (h : item.Sayable) (snake camel : String) :
    (pick item snake camel).Sayable := by
  unfold pick
  split
  · exact h.get camel
  · exact h.get snake

theorem sayable_bucketValue {bucket : Value} (h : bucket.Sayable) :
    (bucketValue bucket).Sayable := by
  have hpick := sayable_pick h
  refine Value.sayable_ofPresent ?_
  simp only [List.forall_mem_cons, Option.mem_def, Option.some.injEq, forall_eq', List.not_mem_nil,
    false_implies, implies_true, and_true]
  refine ⟨h.get "name", .bool _, ?_, fun v hv => ?_, fun v hv => ?_⟩
  · split
    · exact hpick "cache_control" "cacheControl"
    · exact .str "3600"
  · split at hv
    · simp at hv
    · exact Option.some.inj hv ▸ hpick "file_size_limit" "fileSizeLimit"
  · split at hv
    · simp at hv
    · exact Option.some.inj hv ▸ hpick "allowed_mime_types" "allowedMimeTypes"

theorem sayable_storage (h : ∀ b ∈ i.buckets, b.Sayable) : (storage i).value.Sayable := by
  have hbuckets : ∀ b ∈ i.buckets, (bucketValue b).Sayable := fun b hb =>
    sayable_bucketValue (h b hb)
  refine Value.sayable_ofPresent ?_
  simpa [Option.ite_none_right_eq_some, imageTransformations] using hbuckets

theorem sayable_billing (h : ∀ p ∈ i.plans, p.Sayable) : (billing i).value.Sayable := by
  refine Value.sayable_ofPresent ?_
  simpa using h

theorem sayable_members {v : Value} (h : v.Sayable) {ms : List Value} (hm : members? v = some ms) :
    ∀ m ∈ ms, m.Sayable := by
  cases v with
  | list vs => exact Option.some.inj hm ▸ Value.sayable_list.mp h
  | obj es =>
    obtain rfl := Option.some.inj hm
    exact List.forall_mem_map.mpr fun e _ => .str e.1
  | str s =>
    obtain rfl := Option.some.inj hm
    simp
  | set | pair | map | bytes | loop => cases h.isJson
  | _ => simp [members?] at hm

theorem sayable_auth (h : ∀ e ∈ i.config, e.2.Sayable) {o : Overlay} (ho : auth i = .ok o) :
    o.value.Sayable := by
  obtain ⟨⟨ms, found⟩, hs, ho⟩ := bind_eq_ok ho
  obtain rfl := Except.ok.inj ho
  have hmembers : ∀ m ∈ ms, m.Sayable := by
    unfold strategies at hs
    split at hs
    · cases hs
      simp
    · rename_i v hv
      split at hs
      · rename_i found hfound
        obtain ⟨_, -, hs⟩ := bind_eq_ok hs
        cases hs
        exact sayable_members (sayable_truthy? h _ v hv) hfound
      · simp at hs
  simpa [defaultSession, defaultPasswordPolicy] using hmembers

theorem sayable_fileUpload (h : ∀ e ∈ i.config, e.2.Sayable) {o : Overlay}
    (ho : fileUpload i = .ok o) : o.value.Sayable := by
  obtain ⟨_, -, ho⟩ := bind_eq_ok ho
  obtain rfl := Except.ok.inj ho
  simpa using ⟨sayable_orElse h "max_file_size" (.int 10485760),
    sayable_orElse h "allowed_types" (Value.sayable_texts ["*/*"]),
    sayable_orElse h "destination" (.str "local")⟩

/-- JSON can say an overlay where it can say what the intent holds. -/
theorem sayable_ofCapability? (hconfig : ∀ e ∈ i.config, e.2.Sayable)
    (hbuckets : ∀ b ∈ i.buckets, b.Sayable) (hplans : ∀ p ∈ i.plans, p.Sayable) {o : Option Overlay}
    (ho : ofCapability? i = .ok o) : ∀ x ∈ o, x.value.Sayable := by
  unfold ofCapability? at ho
  split at ho
  · cases ho
    simpa using sayable_email hconfig
  split at ho
  · cases ho
    simpa using sayable_storage hbuckets
  split at ho
  · cases ha : auth i with
    | error m => simp [ha, Except.map] at ho
    | ok x =>
      rw [ha] at ho
      cases ho
      simpa using sayable_auth hconfig ha
  split at ho
  · cases ho
    simpa using sayable_billing hplans
  split at ho
  · cases hf : fileUpload i with
    | error m => simp [hf, Except.map] at ho
    | ok x =>
      rw [hf] at ho
      cases ho
      simpa using sayable_fileUpload hconfig hf
  · cases ho
    simp

end Overlay
end Resolved

namespace Draft

open Intent (Kind)

variable {k : Kind} {c : Context} {now : DateTime} {d : Draft} {ir : Ir.Part}

/-- An envelope is read from its draft as the one of its kind. -/
theorem reads_of_settle {p : Intent.Part} (hd : ofPart k c p = .ok d)
    (hs : d.settle c now = .ok ir) :
    Reads Ir.schema Shape.levelLimit (.model (envelopeModel k)) (d.payload c now) ir :=
  Shape.reads_of_checker Ir.schema_faithful.shapes rfl ((draft_kind hd).1 ▸ (settle_eq_ok hs).2)

/-- Of an entity only the seed holds what its author wrote down freely. -/
theorem sayable_addEntity {i : Intent.AddEntity}
    (hseed : ∀ s, i.seed = some s → ∀ g ∈ s.generators, g.2.Sayable)
    (hs : (addEntity c i).settle c now = .ok ir)
    (hread : Reads Ir.schema Shape.levelLimit (.model .addEntity)
      ((addEntity c i).payload c now) ir) :
    ∀ u ∈ ir.freeValues, u.Sayable := by
  have hentity := Instance.field_of_checker (f := .required "entity" "entity"
    (.model Ir.Name.entity))
    (Ir.names_nodup _) (settle_eq_ok hs).2 (by simp [addEntity, Ir.schema, Ir.addEntity]) rfl
  have hentity_read := Shape.reads_of_checker Ir.schema_faithful.shapes rfl hentity
  have hgenerators := Instance.field_of_maybe "seed" "seed" (.model .seed)
    (Ir.names_nodup _) hentity (by simp [Ir.schema, Ir.entity]) (by simp)
  have free_seed : ∀ u ∈ ((ir.get "entity").get "seed").freeValuesAs Ir.schema
      (.optional (.model .seed)), u.Sayable := by
    intro u hu
    rcases hgenerators with ⟨v, hv, hc⟩ | ⟨-, hnull⟩
    · obtain ⟨s, hs, rfl⟩ : ∃ s, i.seed = some s ∧ Resolved.seedValue s = v := by simpa using hv
      exact Instance.sayable_of_reads Ir.schema_faithful Ir.bound
        (Shape.reads_of_checker Ir.schema_faithful.shapes rfl hc)
        (.inr (Resolved.sayable_seedValue (hseed s hs))) hu
    · rw [show (ir.get "entity").get "seed" = .plain .null from hnull] at hu
      simp [Instance.freeValuesAs, Shape.freeValues] at hu
  have free_entity : ∀ u ∈ (ir.get "entity").freeValuesAs Ir.schema (.model .entity), u.Sayable :=
    fun u hu => Instance.sayable_of_field (f := .maybe "seed" "seed" (.model .seed))
      Ir.schema_faithful
      Ir.bound Ir.names_nodup hentity_read (by simp [Ir.schema, Ir.entity]) (by decide) free_seed hu
  intro u hu
  rw [Ir.freeValues_eq hread] at hu
  exact Instance.sayable_of_field (f := .required "entity" "entity" (.model .entity))
    Ir.schema_faithful
    Ir.bound Ir.names_nodup hread (by simp [Ir.schema, Ir.addEntity]) (by decide) free_entity hu

/-- A capability holds nothing but what its author wrote down and what is put in for it. -/
theorem sayable_addCapability {i : Intent.AddCapability} (hconfig : ∀ e ∈ i.config, e.2.Sayable)
    (hbuckets : ∀ b ∈ i.buckets, b.Sayable) (hplans : ∀ p ∈ i.plans, p.Sayable)
    (hd : addCapability c i = .ok d) (hs : d.settle c now = .ok ir)
    (hread : Reads Ir.schema Shape.levelLimit (.model .addCapability) (d.payload c now) ir) :
    ∀ u ∈ ir.freeValues, u.Sayable := by
  obtain ⟨overlay, ho, hmodel, -, hbody, -⟩ := addCapability_eq_ok hd
  have hpayload := hmodel ▸ (settle_eq_ok hs).2
  have hoverlay := Resolved.Overlay.sayable_ofCapability? hconfig hbuckets hplans ho
  have hendpoints : ∀ v ∈ i.endpoints.map capabilityEndpoint, v.Sayable :=
    List.forall_mem_map.mpr fun e _ => Value.sayable_ofPresent (by simp)
  have hfind : Value.find? "capability" (d.entries c now) = some (capabilityValue i overlay) := by
    rw [find?_entries (k := .addCapability) (by decide), hbody]
    rfl
  have hcapability := Instance.field_of_checker
    (f := .required "capability" "capability" (.model Ir.Name.capability)) (Ir.names_nodup _)
    hpayload (by simp [Ir.schema, Ir.addCapability]) hfind
  have free_capability : ∀ u ∈ (ir.get "capability").freeValuesAs Ir.schema (.model .capability),
      u.Sayable := by
    intro u hu
    refine Instance.sayable_of_reads Ir.schema_faithful Ir.bound
      (Shape.reads_of_checker Ir.schema_faithful.shapes rfl hcapability)
      (.inr (Value.sayable_ofPresent ?_)) hu
    simpa [Option.ite_none_left_eq_some] using
      ⟨fun _ k v he => hconfig (k, v) he, Value.sayable_someList hendpoints, hoverlay⟩
  intro u hu
  rw [Ir.freeValues_eq hread] at hu
  exact Instance.sayable_of_field (f := .required "capability" "capability" (.model .capability))
    Ir.schema_faithful Ir.bound Ir.names_nodup hread
      (by simp [Ir.schema, Ir.addCapability]) (by decide)
    free_capability hu

/-- What an author writes down freely comes into an envelope as it is. -/
theorem sayable_freeValues {v : Value} {p : Intent.Part} (hv : v.Sayable)
    (hp : Intent.parse k.model v = .ok p) (hd : ofPart k c p = .ok d)
      (hs : d.settle c now = .ok ir) :
    ∀ u ∈ ir.freeValues, u.Sayable := by
  have hintent := Intent.reads_of_parse hp
  have hread := reads_of_settle hd hs
  cases k with
  | addEntity =>
    obtain rfl := Except.ok.inj hd
    exact sayable_addEntity (fun s hs => Intent.sayable_seed hintent hv hs) hs hread
  | addCapability =>
    refine sayable_addCapability (Intent.sayable_config hintent hv) ?_ ?_ hd hs hread
    · exact Intent.sayable_mappings "buckets" hintent hv
        (by simp [Intent.schema, Intent.addCapability])
    · exact Intent.sayable_mappings "plans" hintent hv
        (by simp [Intent.schema, Intent.addCapability])
  | _ =>
    rw [Ir.freeValues_eq hread]
    exact fun u hu => Instance.sayable_of_reads Ir.schema_faithful Ir.bound hread (.inl rfl) hu

/-- A draft that is settled fits the schema of all envelopes, as it names its kind. -/
theorem checker_envelope {p : Intent.Part} (hd : ofPart k c p = .ok d)
    (hs : d.settle c now = .ok ir) :
    (d.payload c now).checker Ir.schema Shape.levelLimit Ir.envelope = .ok ir := by
  obtain ⟨hm, hk⟩ := draft_kind hd
  have hmodel := (settle_eq_ok hs).2
  rw [hm] at hmodel
  have hkind : Value.find? "kind" (d.entries c now) = some (.str (envelopeKind k)) := by
    rw [← hk]
    rfl
  rw [show d.payload c now = .obj (d.entries c now) from rfl] at hmodel ⊢
  rw [Ir.envelope, Shape.checker_obj_tagged, hkind]
  cases k <;> exact Checked.under_eq_ok.mpr hmodel

end Draft

namespace Resolution

/-- JSON can say the envelope of an intent where it can say the intent. -/
theorem sayable_of_of {c : Context} {now : DateTime} {v : Value} {ir : Ir.Part} (hv : v.Sayable)
    (h : (Resolution.of c now (.plain v)).result = .ok ir) : ir.Sayable := by
  obtain ⟨k, -, hk⟩ := of_eq_ok h
  obtain ⟨p, d, hp, hd, -, hs⟩ := ofKind_eq_ok hk
  exact ⟨⟨_, Shape.reads_of_checker Ir.schema_faithful.shapes Ir.envelope_isFaithful
    (Draft.checker_envelope hd hs)⟩, Draft.sayable_freeValues hv hp hd hs⟩

end Resolution

namespace Document

open Instance

/-- JSON can say the intents of a document that it can say. -/
theorem sayable_intents {v : Value} {d : Document} (hv : v.Sayable) (h : ofValue v = .ok d) :
    ∀ u ∈ d.intents, u.Sayable := by
  cases hp : Intent.parse .document v with
  | error issues => simp [ofValue, hp, Except.map] at h
  | ok whole =>
    rw [ofValue, hp] at h
    obtain rfl := Except.ok.inj h
    have hmem : .required "intents" "intents" (.list 1 .mapping) ∈
      (Intent.schema .document).fields := by
      simp [Intent.schema, Intent.document]
    rcases (Intent.reads_of_parse hp).field_of_sayable Intent.names_nodup hv hmem with
      ⟨d, hd, -⟩ | ⟨k, w, hw, hread⟩
    · simp [Field.required] at hd
    · exact hread.mappings_of_sayable hw

theorem of_mem_placed {c : Context} {now : DateTime} {i : Nat} {vs : List Value} {r : Result}
    (h : Runs now c i vs r) {e : Nat × Ir.Part} (he : e ∈ r.placed) :
    ∃ c', ∃ v ∈ vs, (Resolution.of c' now (.plain v)).result = .ok e.2 := by
  induction h with
  | done => simp at he
  | accepted ho _ ih =>
    rcases List.mem_cons.mp he with rfl | he
    · exact ⟨_, _, List.mem_cons_self, ho⟩
    · obtain ⟨c', v, hv, hc⟩ := ih he
      exact ⟨c', v, List.mem_cons_of_mem _ hv, hc⟩
  | refused _ _ ih =>
    obtain ⟨c', v, hv, hc⟩ := ih he
    exact ⟨c', v, List.mem_cons_of_mem _ hv, hc⟩

/-- JSON can say all envelopes of a document that it can say. -/
theorem sayable_irs {settings : Except Settings.Fault Settings} {q : Request}
    {now : DateTime} {v : Value}
    {r : Result} (hv : v.Sayable) (h : (resolveValue settings q now v).result = .ok r) :
    ∀ ir ∈ r.irs, ir.Sayable := by
  cases hd : ofValue v with
  | error issues => simp [resolveValue, hd] at h
  | ok d =>
    rw [resolveValue, hd] at h
    obtain ⟨c, -, hr⟩ := resolve_eq_ok h
    intro ir hir
    have hruns := runs_of_resolveFrom hr
    rw [← map_snd_placed hruns] at hir
    obtain ⟨e, he, rfl⟩ := List.mem_map.mp hir
    obtain ⟨c', u, hu, hof⟩ := of_mem_placed hruns he
    exact Resolution.sayable_of_of (sayable_intents hv hd u hu) hof

end Document
end SchemaIntents
