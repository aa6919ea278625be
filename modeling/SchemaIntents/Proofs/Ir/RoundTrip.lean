import SchemaIntents.Proofs.Ir.Faithful

/-! Envelopes that come from JSON, written as JSON and read again. -/
namespace SchemaIntents.Ir

open Instance Shape

/-- The origin of an envelope. -/
def provenanceExample : Value := .obj [
  ("intentId", .str "intent"),
  ("projectId", .str "project"),
  ("generatedAt", .str "2024-01-01T00:00:00Z"),
  ("sourceIntentVersion", .str "0.1.0")]

theorem reads_of_parse {v : Value} {x : Part} (h : parse v = .ok x) :
    Reads schema levelLimit envelope v x :=
  reads_of_checker schema_faithful.shapes envelope_isFaithful h

theorem isTorn_of_mem_generatorEntries {x : Part} (hkeys : x.keysWhole = true) :
    ∀ e ∈ x.generatorEntries, Text.isTorn e.1 = false := fun _ he =>
  isTorn_of_mem_entries (keysWhole_field (keysWhole_field (keysWhole_field hkeys _) _) _) he

/-- An envelope that was read from JSON, with finite floats, without halves of pairs in its keys and
with room for its free values, is written and read as the same envelope just when no literal seed
generator is null; the values of those that are null are missing then. Without such room it is not
written. -/
theorem parse_json {v : Value} {x : Part} (hv : v.IsJson) (hx : parse v = .ok x)
    (hf : x.floatsFinite = true) (hkeys : x.keysWhole = true) :
    ((∀ u ∈ Part.freeValues x, u.depth ≤ Value.depthLimit) →
      ∃ w, Part.json x = .ok w ∧
        ((∃ y, parse w = .ok y ∧ y.bare = x.bare) ↔ Part.nullLiterals x = []) ∧
        (∀ y, parse w = .ok y → Part.json y = .ok w) ∧
        (Part.nullLiterals x ≠ [] → parse w =
          .error ((Part.nullLiterals x).map fun f => ⟨.missing, Part.literalPlace f⟩))) ∧
    ((∃ u ∈ Part.freeValues x, Value.depthLimit < u.depth) → Part.json x = .error .tooDeep) := by
  have hread := reads_of_parse hx
  constructor
  · intro hroom
    have hjson : Part.json x = .ok (x.dump schema) := json_eq_dump schema_faithful hv hread hf
      hkeys hroom
    obtain ⟨j, hj, hc⟩ := checker_dump schema_faithful envelope_isFaithful hread
    rw [gaps_envelope hread (isTorn_of_mem_generatorEntries hkeys)] at hc
    have hparse : parse (x.dump schema) =
        lacking j ((Part.nullLiterals x).map Part.literalPlace) := hc
    refine ⟨x.dump schema, hjson, ?_, ?_, ?_⟩
    · constructor
      · rintro ⟨y, hy, -⟩
        by_contra hne
        rw [hparse, lacking_of_ne_nil _ (by simpa using hne)] at hy
        simp at hy
      · intro hnone
        exact ⟨j, by rw [hparse, hnone]; rfl, hj⟩
    · intro y hy
      have hne : Part.nullLiterals x = [] := by
        by_contra hne
        rw [hparse, lacking_of_ne_nil _ (by simpa using hne)] at hy
        simp at hy
      rw [hparse, hne] at hy
      obtain rfl := Except.ok.inj hy
      rw [← hjson, Part.json, Part.json, ← json_bare, hj, json_bare]
    · intro hne
      rw [hparse, lacking_of_ne_nil _ (by simpa using hne), List.map_map]
      rfl
  · intro hdeep
    exact json_eq_error schema_faithful hv hread hkeys hdeep

/-- An envelope with a seed generator that has null as its literal. -/
def seeded : Value := .obj [
  ("kind", .str "AddEntity"),
  ("provenance", provenanceExample),
  ("entity", .obj [
    ("name", .str "User"),
    ("storage", .obj [
      ("tableName", .str "users"),
      ("primaryKey", .obj [("kind", .str "Single"), ("field", .str "id")])]),
    ("fields", .list [.obj [
      ("name", .str "id"), ("type", .obj [("kind", .str "Int")]), ("nullable", .bool false)]]),
    ("seed", .obj [
      ("mode", .str "Random"),
      ("environments", .texts ["dev"]),
      ("generatorByField", .obj [("id", .obj [("kind", .str "Literal"), ("value", .null)])])]),
    ("createdByIntent", .str "intent"),
    ("updatedByIntents", .list [])]),
  ("diagnostics", .list [])]

theorem parse_json_seeded : ∃ x w, parse seeded = .ok x ∧ Part.json x = .ok w ∧
    parse w = .error [⟨.missing, Part.literalPlace "id"⟩] := by
  have hv : seeded.IsJson := by simp [seeded, provenanceExample, Value.texts]
  obtain ⟨w, hw, -, -, hmissing⟩ := (parse_json hv rfl rfl (by decide +kernel)).1 (by decide)
  exact ⟨_, w, rfl, hw, hmissing (by decide)⟩

/-- Lists inside each other. -/
def nested : Nat → Value
  | 0 => .list []
  | n + 1 => .list [nested n]

theorem isJson_nested (n : Nat) : (nested n).IsJson := by
  induction n with
  | zero => simp [nested]
  | succ n ih => simpa [nested] using ih

theorem depth_nested (n : Nat) : (nested n).depth = n + 1 := by
  induction n with
  | zero => rfl
  | succ n ih => simp [nested, Value.depth, Value.depthAll, ih]

/-- An envelope whose configuration holds lists inside each other. -/
def configured (config : Value) : Value := .obj [
  ("kind", .str "AddCapability"),
  ("provenance", provenanceExample),
  ("capability", .obj [
    ("type", .str "sse"),
    ("framework", .str "express"),
    ("config", .obj [("events", config)])]),
  ("diagnostics", .list [])]

/-- An envelope without any seed generator that is read, and then not written. -/
theorem json_configured_nested : ∃ x, (configured (nested 300)).IsJson ∧
    parse (configured (nested 300)) = .ok x ∧ x.floatsFinite = true ∧ Part.nullLiterals x = [] ∧
    Part.json x = .error .tooDeep := by
  have hv : (configured (nested 300)).IsJson := by
    simp [configured, provenanceExample, isJson_nested]
  have hdeep : Value.depthLimit < (nested 300).depth := by
    rw [depth_nested]
    decide
  refine ⟨_, hv, rfl, by decide +kernel, rfl, ?_⟩
  exact json_eq_error schema_faithful hv (reads_of_parse rfl) (by decide +kernel)
    ⟨nested 300, List.mem_cons_self, hdeep⟩

end SchemaIntents.Ir
