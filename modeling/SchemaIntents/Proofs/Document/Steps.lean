import SchemaIntents.Proofs.Document.Known
import SchemaIntents.Proofs.Resolution.Tracking

/-! The steps of a document. An intent changes what is known of no other entities than those that it
speaks of, and depends on no others; so a document comes to the same with any known entities of
which it cannot tell the difference. -/
namespace SchemaIntents

open Intent (Submission)

variable {c : Context} {now now' : DateTime} {n : String} {known known' : Option (List String)}
  {ir : Ir.Part}

theorem effect_undated (n : String) (ir : Ir.Part) : effect n ir.undated = effect n ir := by
  have same : ∀ {name : String}, name ≠ "provenance" →
      ir.undated.field Ir.schema name = ir.field Ir.schema name :=
    fun hname => Ir.Part.get_undated hname ir
  simp only [effect, Ir.Part.kind, Ir.Part.get, same (show "kind" ≠ "provenance" by decide),
    same (show "entity" ≠ "provenance" by decide),
      same (show "entity_name" ≠ "provenance" by decide),
    same (show "from_name" ≠ "provenance" by decide),
      same (show "to_name" ≠ "provenance" by decide)]

/-- Whether an entity is known after an envelope is as the envelope has it, or else as before. -/
theorem contains_knownAfter (known : Option (List String)) (ir : Ir.Part) (n : String) :
    (knownAfter known ir).map (·.contains n) =
      (known.map (·.contains n)).map (effect n ir).getD := by
  cases known with
  | none => rfl
  | some names =>
    obtain ⟨later, hlater⟩ : ∃ later, knownAfter (some names) ir =
      some later := by simp [knownAfter]
    rw [hlater, Option.map_some, Option.map_some, Option.map_some, Option.some.injEq,
      Bool.eq_iff_iff, List.contains_iff_mem, mem_knownAfter hlater]
    cases effect n ir <;> simp

/-- An envelope has no effect on entities that its intent does not speak of. -/
theorem effect_eq_none {s : Submission} (h : (Resolution.of c now s).result = .ok ir)
    (hn : n ∉ Resolution.entityNames s) : effect n ir = none := by
  obtain ⟨k, hk, h⟩ := Resolution.of_eq_ok h
  obtain ⟨p, d, hp, hd, -, hs⟩ := Resolution.ofKind_eq_ok h
  simp only [Resolution.entityNames, hk, hp] at hn
  have hkind := kind_of_settle hd hs
  have hpayload := (Draft.settle_eq_ok hs).2
  cases k with
  | addEntity =>
    obtain rfl := Except.ok.inj hd
    have hentity := Instance.field_of_checker
      (f := .required "entity" "entity" (.model Ir.Name.entity))
      (Ir.names_nodup _) hpayload (by simp [Draft.addEntity, Ir.schema, Ir.addEntity]) rfl
    have hname := Draft.text_of_payload (f := .required "name" "name" .someText) hentity
      (by simp [Ir.schema, Ir.entity]) rfl rfl
    simp only [effect, hkind, envelopeKind]
    exact if_neg fun heq => hn (by simpa [Draft.entityNames] using heq.symm.trans hname)
  | removeEntity =>
    obtain rfl := Except.ok.inj hd
    have hname := Draft.text_of_payload (f := .required "entity_name" "entityName" .someText)
      hpayload (by simp [Draft.removeEntity, Ir.schema, Ir.removeEntity]) rfl rfl
    simp only [effect, hkind, envelopeKind]
    exact if_neg fun heq => hn (by simpa [Draft.entityNames] using heq.symm.trans hname)
  | renameEntity =>
    obtain rfl := Except.ok.inj hd
    have hfrom := Draft.text_of_payload (f := .required "from_name" "fromName" .someText) hpayload
      (by simp [Draft.renameEntity, Ir.schema, Ir.renameEntity]) rfl rfl
    have hto := Draft.text_of_payload (f := .required "to_name" "toName" .someText) hpayload
      (by simp [Draft.renameEntity, Ir.schema, Ir.renameEntity]) rfl rfl
    simp only [Draft.entityNames, List.mem_cons, List.not_mem_nil, or_false, not_or] at hn
    simp only [effect, hkind, envelopeKind]
    rw [if_neg fun heq => hn.2 (heq.symm.trans hto), if_neg fun heq => hn.1 (heq.symm.trans hfrom)]
  | _ => simp [effect, hkind, envelopeKind]

namespace Document

variable {i : Nat} {v : Value} {vs : List Value} {r : Result} {o : SchemaIntents.Outcome}

/-- What an intent comes to in a document: an envelope, or a rejection as one of its kind or of
none. -/
def Comes (c : Context) (now : DateTime) (v : Value) : SchemaIntents.Outcome → Prop
  | .ok ir => (Resolution.of c now (.plain v)).result = .ok ir
  | .error j => Refused c now v j

/-- The entities that are known after an outcome. -/
def knownFrom (known : Option (List String)) : SchemaIntents.Outcome → Option (List String)
  | .ok ir => knownAfter known ir
  | .error _ => known

/-- What an outcome does to an entity. -/
def effectOf (n : String) : SchemaIntents.Outcome → Option Bool
  | .ok ir => effect n ir
  | .error _ => none

namespace Result

/-- A result with one more outcome in front. -/
def record (r : Result) (i : Nat) (v : Value) : SchemaIntents.Outcome → Result
  | .ok ir => r.withIr i ir
  | .error j => r.withFailure ⟨i, v.get "kind", j.diagnostics⟩

/-- A result without the moments when its envelopes were made. -/
def undated (r : Result) : Result :=
  { r with irs := r.irs.map Ir.Part.undated }

/-- The entities that are known after all envelopes of a result. -/
def knownLast (known : Option (List String)) (r : Result) : Option (List String) :=
  r.placed.foldl (fun known e => knownAfter known e.2) known

theorem undated_record (r : Result) (i : Nat) (v : Value) (o : SchemaIntents.Outcome) :
    (r.record i v o).undated = r.undated.record i v (o.map Ir.Part.undated) := by
  cases o <;> rfl

theorem knownLast_record (r : Result) (i : Nat) (v : Value) (o : SchemaIntents.Outcome) :
    (r.record i v o).knownLast known = r.knownLast (knownFrom known o) := by
  cases o <;> rfl

end Result

/-- A run begins with what its first intent comes to. -/
theorem runs_cons : Runs now c i (v :: vs) r ↔ ∃ o r', Comes c now v o ∧
    Runs now (c.withKnown (knownFrom c.known o)) (i + 1) vs r' ∧ r = r'.record i v o := by
  constructor
  · intro h
    cases h with
    | @accepted _ _ _ _ r' ir ho hr => exact ⟨.ok ir, r', ho, hr, rfl⟩
    | @refused _ _ _ _ r' j ho hr => exact ⟨.error j, r', ho, hr, rfl⟩
  · rintro ⟨o, r', ho, hr, rfl⟩
    cases o with
    | ok ir => exact .accepted ho hr
    | error j => exact .refused ho hr

theorem effectOf_congr {o o' : SchemaIntents.Outcome}
    (h : o'.map Ir.Part.undated = o.map Ir.Part.undated) : effectOf n o' = effectOf n o := by
  rcases map_eq_map h with ⟨j, rfl, rfl⟩ | ⟨ir', ir, rfl, rfl, hir⟩
  · rfl
  · rw [effectOf, effectOf, ← effect_undated, hir, effect_undated]

theorem effectOf_eq_none (h : Comes c now v o) (hn : n ∉ Resolution.entityNames (.plain v)) :
    effectOf n o = none := by
  cases o with
  | ok ir => exact effect_eq_none h hn
  | error j => rfl

theorem contains_knownFrom (known : Option (List String)) (o : SchemaIntents.Outcome) (n : String) :
    (knownFrom known o).map (·.contains n) =
      (known.map (·.contains n)).map (effectOf n o).getD := by
  cases o with
  | ok ir => exact contains_knownAfter known ir n
  | error j => cases known <;> rfl

/-- Of the entities that an intent speaks of, the same ones are known. -/
def Agree (known known' : Option (List String)) (v : Value) : Prop :=
  ∀ n ∈ Resolution.entityNames (.plain v), known.map (·.contains n) = known'.map (·.contains n)

/-- Where the same of its entities are known, an intent comes to the same at whatever moments. -/
theorem Comes.agree (h : Comes (c.withKnown known) now v o) (ht : now.IsValid) (ht' : now'.IsValid)
    (hagree : Agree known known' v) :
    ∃ o', Comes (c.withKnown known') now' v o' ∧
      o'.map Ir.Part.undated = o.map Ir.Part.undated := by
  have same := Resolution.of_undated (c := c) ht ht' hagree
  cases o with
  | ok ir =>
    rcases map_eq_map same with ⟨refusal, hx, -⟩ | ⟨ir₁, ir', hx, hy, hir⟩
    · exact absurd (hx.symm.trans h) (by simp)
    · obtain rfl := Except.ok.inj (hx.symm.trans h)
      exact ⟨.ok ir', hy, congrArg Except.ok hir.symm⟩
  | error j =>
    have refused : ∀ refusal, (Resolution.of (c.withKnown known) now (.plain v)).result =
        .error refusal →
        (Resolution.of (c.withKnown known') now' (.plain v)).result = .error refusal := by
      intro refusal hx
      rcases map_eq_map same with ⟨refusal', hx', hy⟩ | ⟨ir₁, ir', hx', -, -⟩
      · rw [hy, ← hx', hx]
      · exact absurd (hx.symm.trans hx') (by simp)
    exact ⟨.error j, h.imp (refused _) (refused _), rfl⟩

/-- Two collections of known entities that no document can tell apart. -/
def Alike (known known' : Option (List String)) : Prop :=
  ∀ n, known.map (·.contains n) = known'.map (·.contains n)

/-- Where the same entities are known, a document comes to the same at whatever moments. -/
theorem Runs.alike (h : Runs now (c.withKnown known) i vs r) (ht : now.IsValid) (ht' : now'.IsValid)
    (hknown : Alike known known') :
    ∃ r', Runs now' (c.withKnown known') i vs r' ∧ r'.undated = r.undated ∧
      Alike (r.knownLast known) (r'.knownLast known') := by
  induction vs generalizing known known' i r with
  | nil =>
    cases h
    exact ⟨{}, .done _ _, rfl, hknown⟩
  | cons v vs ih =>
    obtain ⟨o, rest, ho, hrest, rfl⟩ := runs_cons.mp h
    obtain ⟨o', ho', hsame⟩ := ho.agree ht ht' fun n _ => hknown n
    have hlater : Alike (knownFrom known o) (knownFrom known' o') := by
      intro n
      rw [contains_knownFrom, contains_knownFrom, hknown n, effectOf_congr hsame]
    obtain ⟨rest', hrest', hundated, hlast⟩ := ih hrest hlater
    refine ⟨rest'.record i v o', runs_cons.mpr ⟨o', rest', ho', hrest', rfl⟩, ?_, ?_⟩
    · rw [Result.undated_record, Result.undated_record, hundated, hsame]
    · rw [Result.knownLast_record, Result.knownLast_record]
      exact hlast

/-- What is known after a run is what its envelopes leave. -/
theorem knownBefore_last (h : Runs now c i vs r) (known : Option (List String)) :
    knownBefore known r.placed (i + vs.length) = r.knownLast known := by
  have hall : r.placed.filter (fun e => e.1 < i + vs.length) = r.placed :=
    List.filter_eq_self.mpr fun e he => by simpa using lt_of_mem_placed h he
  rw [knownBefore, hall, Result.knownLast]

end Document
end SchemaIntents
