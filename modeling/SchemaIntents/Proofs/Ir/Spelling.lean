import SchemaIntents.Proofs.Ir.Closed
import SchemaIntents.Proofs.Shape.Spelling

/-! Envelopes may be spelled with the names of fields or with the keys of the wire, and in any
order. -/
namespace SchemaIntents.Ir

open Instance Shape

/-- Data that is read as an envelope with finite floats is read as the same envelope when any of its
mappings that are read as models are respelled. Without halves of pairs in its keys the envelope is
written, and with the keys of the wire alone, if there is room for its free values; without such
room it is not written. -/
theorem parse_respelled {v v' : Value} {x : Part} (hv : v.IsJson) (hx : parse v = .ok x)
    (hf : x.floatsFinite = true) (h : Respelled schema envelope v v') :
    parse v' = .ok x ∧ (x.keysWhole = true →
      ((∀ u ∈ Part.freeValues x, u.depth ≤ Value.depthLimit) →
        ∃ w, Part.json x = .ok w ∧
          ∀ place n es loc, Leads schema envelope w place (.model n) (.obj es) loc →
            ∀ e ∈ es, e.1 ∈ (schema n).fields.map (·.wire)) ∧
      ((∃ u ∈ Part.freeValues x, Value.depthLimit < u.depth) → Part.json x = .error .tooDeep)) := by
  have hread := reads_of_parse hx
  refine ⟨h.checker_eq_ok schema_spelled schema_closed envelope_hasTags hx, fun hkeys =>
    ⟨fun hroom => ?_, fun hdeep => json_eq_error schema_faithful hv hread hkeys hdeep⟩⟩
  exact ⟨x.dump schema, json_eq_dump schema_faithful hv hread hf hkeys hroom,
    fun place n es loc hleads => hread.wires_of_leads schema_faithful hleads⟩

/-- An envelope that says by the name of the field which intent it is for. -/
def configuredByName (config : Value) : Value := .obj [
  ("kind", .str "AddCapability"),
  ("provenance", .obj [
    ("intent_id", .str "intent"),
    ("projectId", .str "project"),
    ("generatedAt", .str "2024-01-01T00:00:00Z"),
    ("sourceIntentVersion", .str "0.1.0")]),
  ("capability", .obj [
    ("type", .str "sse"),
    ("framework", .str "express"),
    ("config", .obj [("events", config)])]),
  ("diagnostics", .list [])]

theorem respelled_configured (config : Value) :
    Respelled schema envelope (configured config) (configuredByName config) := by
  have hleads : Leads schema envelope (configured config) [.key "provenance"] (.model .provenance)
      provenanceExample [.key "AddCapability", .key "provenance"] := by
    refine .chosen rfl rfl ?_
    exact .field (f := .required "provenance" "provenance" (.model .provenance))
      (by simp [schema, addCapability]) (.inl rfl) rfl (.here _ _)
  have hname : Respelling schema .provenance [
      ("intentId", .str "intent"), ("projectId", .str "project"),
      ("generatedAt", .str "2024-01-01T00:00:00Z"), ("sourceIntentVersion", .str "0.1.0")] [
      ("intent_id", .str "intent"), ("projectId", .str "project"),
      ("generatedAt", .str "2024-01-01T00:00:00Z"), ("sourceIntentVersion", .str "0.1.0")] :=
    @Respelling.name _ _ _ [] _ (.required "intent_id" "intentId" .someText) _
      (by simp [schema, provenance]) (by decide) (by decide)
  exact .single (.intro hleads hname)

theorem isJson_configured {config : Value} (h : config.IsJson) : (configured config).IsJson := by
  simp [configured, provenanceExample, h]

theorem parse_respelled_configured : ∃ x w, parse (configured (nested 2)) = .ok x ∧
    parse (configuredByName (nested 2)) = .ok x ∧ Part.json x = .ok w ∧
    ∀ place n es loc, Leads schema envelope w place (.model n) (.obj es) loc →
      ∀ e ∈ es, e.1 ∈ (schema n).fields.map (·.wire) := by
  obtain ⟨hparse, hwritten⟩ := parse_respelled (isJson_configured (isJson_nested 2)) rfl rfl
    (respelled_configured (nested 2))
  obtain ⟨w, hw, hwires⟩ := (hwritten (by decide +kernel)).1 (by decide)
  exact ⟨_, w, rfl, hparse, hw, hwires⟩

/-- An envelope that is read in both spellings, and then not written. -/
theorem json_configuredByName_nested : ∃ x, (configured (nested 300)).IsJson ∧
    parse (configured (nested 300)) = .ok x ∧ x.floatsFinite = true ∧
    Respelled schema envelope (configured (nested 300)) (configuredByName (nested 300)) ∧
    parse (configuredByName (nested 300)) = .ok x ∧ Part.json x = .error .tooDeep := by
  have hv := isJson_configured (isJson_nested 300)
  have hdeep : Value.depthLimit < (nested 300).depth := by
    rw [depth_nested]
    decide
  refine ⟨_, hv, rfl, by decide +kernel, respelled_configured _, rfl, ?_⟩
  exact json_eq_error schema_faithful hv (reads_of_parse rfl) (by decide +kernel)
    ⟨nested 300, List.mem_cons_self, hdeep⟩

end SchemaIntents.Ir
