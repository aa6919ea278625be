import SchemaIntents.Proofs.Ir.RoundTrip
import SchemaIntents.Proofs.Shape.Charts

/-! The intermediate representation is closed at every depth: but for the few places where anything
may stand, one more key in any mapping of an envelope is found and is all that is found. -/
namespace SchemaIntents.Ir

open Shape

theorem schema_spelled : schema.Spelled where
  faithful := schema_faithful
  names := names_nodup
  tags := by
    intro n
    cases n <;> decide

theorem envelope_hasTags : envelope.hasTags schema = true := by
  decide

theorem schema_closed (n : Name) : (schema n).closed = true := by
  cases n <;> rfl

/-- The fields of models that hold or lead to what is read as no model. -/
def openings : Name → List (Field Name)
  | .addEntity => [.required "entity" "entity" (.model .entity)]
  | .entity => [.maybe "seed" "seed" (.model .seed)]
  | .seed => [.maybe "generator_by_field" "generatorByField" (.table seedGenerator)]
  | .literalGenerator => [.required "value" "value" .any]
  | .addCapability => [.required "capability" "capability" (.model .capability)]
  | .capability => [.maybe "config" "config" .mapping, .maybe "overlay" "overlay" overlay]
  | .fileUploadOverlay => [.maybe "destination_config" "destinationConfig" .mapping]
  | _ => []

/-- A model in which every mapping is read as a model. -/
def isSealed (n : Name) : Bool :=
  (openings n).isEmpty

theorem openFields_eq (n : Name) : openFields schema isSealed n = openings n := by
  cases n <;> rfl

/-- The places in an envelope where mappings are read as no model: the configuration of a
capability, that of the destination of its uploads, the seed generators by the names of their
fields, and the value of a literal among these. -/
inductive StandsFree : Location → Prop
  | config (rest : Location) : StandsFree (.key "capability" :: .key "config" :: rest)
  | destination {k : String} (rest : Location) : k = "destinationConfig" ∨
      k = "destination_config" → StandsFree (.key "capability" :: .key "overlay" :: .key k :: rest)
  | generators {k : String} : k = "generatorByField" ∨ k = "generator_by_field" →
      StandsFree [.key "entity", .key "seed", .key k]
  | literal {k : String} (field : String) (rest : Location) :
      k = "generatorByField" ∨ k = "generator_by_field" →
      StandsFree (.key "entity" :: .key "seed" :: .key k :: .key field :: .key "value" :: rest)

section Openings

variable {v u : Value} {t : Shape Name} {place loc : Location}

theorem opening (ht : t.isOpen = true) {n : Name} (h : Leads schema (.model n) v place t u loc) :
    ∃ f ∈ openings n, ∃ k w rest loc', (k = f.wire ∨ k = f.name) ∧
      place = .key k :: rest ∧ Leads schema f.shape w rest t u loc' := by
  have hsort : ∀ n, isSealed n = true → openFields schema isSealed n = [] := by
    intro n hn
    rw [openFields_eq]
    simpa [isSealed] using hn
  rw [← openFields_eq]
  exact h.of_model hsort ht

/-- What an opening of a model with one open field is, and what it leads to. -/
theorem only_opening (ht : t.isOpen = true) {n : Name} {f : Field Name} (hn : openings n = [f])
    (h : Leads schema (.model n) v place t u loc) :
    ∃ k w rest loc', (k = f.wire ∨ k = f.name) ∧ place = .key k :: rest ∧
      Leads schema f.shape w rest t u loc' := by
  obtain ⟨g, hg, hrest⟩ := opening ht h
  rw [hn, List.mem_singleton] at hg
  exact hg ▸ hrest

/-- A choice by a tag leads on through a model that is not sealed. -/
theorem opening_choice (ht : t.isOpen = true) {tag : String} {choices : List (String × Name)}
    (h : Leads schema (.tagged tag choices) v place t u loc) :
    ∃ c ∈ choices.filter (!isSealed ·.2), ∃ loc', Leads schema (.model c.2) v place t u loc' := by
  obtain ⟨c, hc, loc', h⟩ := h.of_tagged ht
  obtain ⟨f, hf, -⟩ := opening ht h
  refine ⟨c, List.mem_filter.mpr ⟨hc, ?_⟩, loc', h⟩
  simpa [isSealed] using List.ne_nil_of_mem hf

theorem standsFree_seed {rest : Location} (ht : t.isOpen = true)
    (hrest : ∀ e, t = .table e → rest = []) (h : Leads schema (.model .seed) v place t u loc) :
    StandsFree (.key "entity" :: .key "seed" :: place ++ rest) := by
  obtain ⟨k, _, _, _, hk, rfl, hopt⟩ := only_opening ht rfl h
  replace hk : k = "generatorByField" ∨ k = "generator_by_field" := hk
  rcases (hopt.of_optional ht).of_table with ⟨rfl, rfl⟩ | ⟨field, _, _, _, rfl, hgen⟩
  · rw [hrest _ rfl]
    exact .generators hk
  · obtain ⟨c, hc, _, hlit⟩ := opening_choice ht hgen
    obtain rfl : c = ("Literal", .literalGenerator) := List.mem_singleton.mp hc
    obtain ⟨k', _, _, _, hk', rfl, hany⟩ := only_opening ht rfl hlit
    obtain rfl : k' = "value" := hk'.elim id id
    obtain rfl := hany.place_of_any
    exact .literal field rest hk

theorem standsFree_capability {rest : Location} (ht : t.isOpen = true)
    (h : Leads schema (.model .capability) v place t u loc) :
    StandsFree (.key "capability" :: place ++ rest) := by
  obtain ⟨f, hf, k, _, _, _, hk, rfl, hopt⟩ := opening ht h
  simp only [openings, List.mem_cons, List.not_mem_nil, or_false] at hf
  rcases hf with rfl | rfl
  · obtain rfl : k = "config" := hk.elim id id
    obtain rfl := (hopt.of_optional ht).place_of_mapping
    exact .config rest
  · obtain rfl : k = "overlay" := hk.elim id id
    obtain ⟨c, hc, _, hoverlay⟩ := opening_choice ht (hopt.of_optional ht)
    obtain rfl : c = ("file_upload", .fileUploadOverlay) := List.mem_singleton.mp hc
    obtain ⟨k', _, _, _, hk', rfl, hconfig⟩ := only_opening ht rfl hoverlay
    obtain rfl := (hconfig.of_optional ht).place_of_mapping
    exact .destination rest hk'

/-- Only at these places mappings are read as no model. -/
theorem standsFree_envelope {rest : Location} (ht : t.isOpen = true)
    (hrest : ∀ e, t = .table e → rest = []) (h : Leads schema envelope v place t u loc) :
    StandsFree (place ++ rest) := by
  obtain ⟨c, hc, _, hchosen⟩ := opening_choice ht h
  have choices : c = ("AddEntity", .addEntity) ∨ c = ("AddCapability", .addCapability) :=
    (List.mem_cons.mp hc).imp_right List.mem_singleton.mp
  rcases choices with rfl | rfl
  · obtain ⟨k, _, _, _, hk, rfl, hentity⟩ := only_opening ht rfl hchosen
    obtain rfl : k = "entity" := hk.elim id id
    obtain ⟨k, _, _, _, hk, rfl, hseed⟩ := only_opening ht rfl hentity
    obtain rfl : k = "seed" := hk.elim id id
    exact standsFree_seed ht hrest (hseed.of_optional ht)
  · obtain ⟨k, _, _, _, hk, rfl, hcapability⟩ := only_opening ht rfl hchosen
    obtain rfl : k = "capability" := hk.elim id id
    exact standsFree_capability ht hcapability

end Openings

/-- In data that is read as an envelope every mapping that does not stand free is read as a model.
With one more key in it, which is neither the name of a field of that model nor its key on the wire,
the data is not read any more, and the one issue with it lies at that key. A key with halves of
pairs names no place: the one issue with such a key lies at its mapping. -/
theorem parse_insert {v : Value} {x : Part} {place : Location} {es : List (String × Value)}
    (hx : parse v = .ok x) (hat : v.at? place = some (.obj es)) (hfree : ¬StandsFree place) :
    (∃ n loc, Leads schema envelope v place (.model n) (.obj es) loc) ∧
      ∀ n loc, Leads schema envelope v place (.model n) (.obj es) loc →
        ∀ before after k w, es = before ++ after → IsStranger schema n k →
          (Text.isTorn k = false → parse (v.replace place (.obj (before ++ (k, w) :: after))) =
            .error [⟨.extra, loc ++ [.key k]⟩]) ∧
          (Text.isTorn k = true → parse (v.replace place (.obj (before ++ (k, w) :: after))) =
            .error [⟨.undecodableText, loc⟩]) := by
  constructor
  · cases charted schema_spelled schema_closed envelope_isFaithful hx hat with
    | model h => exact ⟨_, _, h⟩
    | inside rest ht hrest h => exact absurd (standsFree_envelope ht hrest h) hfree
  · rintro n loc h before after k w rfl hk
    have herror : parse (v.replace place (.obj (before ++ (k, w) :: after))) =
        .error [(strangerIssue k).inside loc] :=
      h.checker_insert schema_spelled (schema_closed n) envelope_hasTags hk hx
    constructor
    · intro hwhole
      rw [herror, strangerIssue, hwhole]
      rfl
    · intro htorn
      rw [herror, strangerIssue, htorn, if_pos rfl, Issue.inside, List.append_nil]

/-- The place of the type of a field, and where issues with it lie. -/
def typePlace : Location :=
  [.key "entity", .key "fields", .index 0, .key "type"]

def typeLocation : Location :=
  [.key "AddEntity", .key "entity", .key "fields", .index 0, .key "type", .key "Int"]

theorem not_standsFree_typePlace : ¬StandsFree typePlace := by
  intro h
  generalize hp : typePlace = p at h
  cases h <;> simp [typePlace] at hp

theorem leads_typePlace : Leads schema envelope seeded typePlace (.model .scalarType)
    (.obj [("kind", .str "Int")]) typeLocation := by
  refine .chosen rfl rfl ?_
  refine .field (f := .required "entity" "entity" (.model .entity)) (by simp [schema, addEntity])
    (.inl rfl) rfl ?_
  refine .field (f := .required "fields" "fields" (.list 1 (.model .field)))
    (by simp [schema, entity]) (.inl rfl) rfl ?_
  refine .item (i := 0) rfl ?_
  refine .field (f := .deeper (.required "type" "type" fieldType)) (by simp [schema, field])
    (.inl rfl) rfl ?_
  exact .chosen rfl rfl (.here _ _)

/-- A type of whole numbers has no length. -/
theorem parse_insert_seeded :
    (∃ x, parse seeded = .ok x) ∧ seeded.at? typePlace = some (.obj [("kind", .str "Int")]) ∧
      ¬StandsFree typePlace ∧
      parse (seeded.replace typePlace (.obj [("kind", .str "Int"), ("length", .int 3)])) =
        .error [⟨.extra, typeLocation ++ [.key "length"]⟩] := by
  obtain ⟨-, hinsert⟩ := parse_insert (v := seeded) rfl rfl not_standsFree_typePlace
  exact ⟨⟨_, rfl⟩, rfl, not_standsFree_typePlace,
    (hinsert _ _ leads_typePlace [("kind", .str "Int")] []
    "length" (.int 3) rfl (by unfold IsStranger; decide)).1 (by decide)⟩

/-- Of a key that is half of a pair the issue does not lie at the key. -/
theorem parse_insert_half :
    let half := String.ofList (Text.Point.half 0).held
    (∃ x, parse seeded = .ok x) ∧
      Leads schema envelope seeded typePlace (.model .scalarType) (.obj [("kind", .str "Int")])
        typeLocation ∧
      ¬StandsFree typePlace ∧ IsStranger schema .scalarType half ∧
      parse (seeded.replace typePlace (.obj [("kind", .str "Int"), (half, .int 3)])) ≠
        .error [⟨.extra, typeLocation ++ [.key half]⟩] := by
  intro half
  have hstranger : IsStranger schema .scalarType half := by
    unfold IsStranger
    decide
  obtain ⟨x, hx⟩ : ∃ x, parse seeded = .ok x := ⟨_, rfl⟩
  refine ⟨⟨x, hx⟩, leads_typePlace, not_standsFree_typePlace, hstranger, ?_⟩
  have hleads : Leads schema envelope seeded typePlace (.model .scalarType)
      (.obj ([("kind", .str "Int")] ++ [])) typeLocation := leads_typePlace
  have herror : parse (seeded.replace typePlace
      (.obj ([("kind", .str "Int")] ++ [(half, .int 3)]))) =
      .error [(strangerIssue half).inside typeLocation] :=
    hleads.checker_insert schema_spelled (schema_closed _) envelope_hasTags hstranger hx
  have hdiffer : [(strangerIssue half).inside typeLocation] ≠
      [⟨.extra, typeLocation ++ [.key half]⟩] := by decide
  exact fun hsame => hdiffer (Except.error.inj (herror.symm.trans hsame))

end SchemaIntents.Ir
