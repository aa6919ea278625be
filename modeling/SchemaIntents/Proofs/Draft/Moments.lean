import SchemaIntents.Proofs.Draft.Envelope
import SchemaIntents.Proofs.Shape.Alteration

/-! Envelopes apart from the moment when they were made. At whatever moments a draft is settled, it
comes to the same apart from them. -/
namespace SchemaIntents

open Shape

namespace Ir.Part

/-- A field of an origin, but no moment. -/
def timeless (f : Field Name) (i : Part) : Part :=
  if f.name = "generated_at" then .plain .null else i

/-- An envelope without the moment when it was made. -/
def undated (ir : Part) : Part :=
  ir.alter schema fun f i => if f.name = "provenance" then i.alter schema timeless else i

/-- An envelope without the moment when it was made and without what was reported then. -/
def content (ir : Part) : Part :=
  ir.alter schema fun f i =>
    if f.name = "provenance" then i.alter schema timeless
    else if f.name = "diagnostics" then .list []
    else i

theorem get_undated {name : String} (h : name ≠ "provenance") (ir : Part) :
    ir.undated.get name = ir.get name :=
  Instance.field_alter (fun _ hf _ => if_neg (hf ▸ h)) ir

end Ir.Part

variable {l : Nat} {now now' : DateTime}

/-- The entries of an origin with the text of a moment. -/
def Context.origin (c : Context) (moment : String) : List (String × Value) :=
  [("intentId", .str c.intentId), ("projectId", .str c.projectId)] ++
    [("generatedAt", .str moment)] ++ ([("sourceIntentVersion", .str c.version)] ++
    ((c.model.filter (· != "")).map fun m => ("model", Value.str m)).toList)

theorem Context.find?_origin_congr (c : Context) {key : String} (hkey : key ≠ "generatedAt")
    (moment moment' : String) :
    Value.find? key (c.origin moment) = Value.find? key (c.origin moment') := by
  have other : ∀ t, Value.find? key [("generatedAt", .str t)] = none :=
    fun t => Value.find?_eq_none (by simpa using hkey)
  simp only [origin, Value.find?_append, other]

/-- Origins with different moments are the same apart from these. -/
theorem origin_alter (c : Context) {moment moment' : String}
    (hm : Pattern.utcMoment.accepts moment = true)
      (hm' : Pattern.utcMoment.accepts moment' = true) :
    ((Value.obj (c.origin moment)).checker Ir.schema l (.model .provenance)).map
        (Instance.alter Ir.schema Ir.Part.timeless) =
      ((Value.obj (c.origin moment')).checker Ir.schema l (.model .provenance)).map
        (Instance.alter Ir.schema Ir.Part.timeless) := by
  have fits : ∀ {t : String} (l : Nat), Pattern.utcMoment.accepts t = true → ∃ i : Ir.Part,
      (Value.str t).checker Ir.schema l (.formed .utcMoment) = .ok i := by
    intro t l h
    exact finds_nil.mp (fits_text.mpr (textFault?_formed.mpr ⟨Pattern.isTorn_of_utcMoment h, h⟩))
  refine checker_alter rfl (by simp [Context.origin]) fun f hf => ?_
  simp only [Ir.schema, Ir.provenance, List.mem_cons, List.not_mem_nil, or_false] at hf
  rcases hf with rfl | rfl | rfl | rfl | rfl
  case inr.inr.inl =>
    obtain ⟨i, hi⟩ := fits _ hm
    obtain ⟨i', hi'⟩ := fits _ hm'
    have hfound : Value.find? "generatedAt" (c.origin moment) = some (.str moment) := rfl
    have hfound' : Value.find? "generatedAt" (c.origin moment') = some (.str moment') := rfl
    rw [fieldOutcome_of_find? (f := .required "generated_at" "generatedAt" (.formed .utcMoment))
      hfound,
      fieldOutcome_of_find? (f := .required "generated_at" "generatedAt" (.formed .utcMoment))
        hfound',
      map_under, map_under, Field.required, hi, hi']
    rfl
  all_goals
    exact congrArg _ (fieldOutcome_congr (c.find?_origin_congr (by simp) _ _)
      (c.find?_origin_congr (by simp) _ _))

theorem provenance_alter (c : Context) (ht : now.IsValid) (ht' : now'.IsValid) :
    ((c.provenance now).checker Ir.schema l (.model .provenance)).map
        (Instance.alter Ir.schema Ir.Part.timeless) =
      ((c.provenance now').checker Ir.schema l (.model .provenance)).map
        (Instance.alter Ir.schema Ir.Part.timeless) :=
  origin_alter c (Pattern.accepts_millisecondText ht) (Pattern.accepts_millisecondText ht')

theorem names_ownFields (k : Intent.Kind) : ∀ f ∈ ownFields k,
    f.wire ∉ ["provenance", "diagnostics"] ∧ f.name ∉ ["provenance", "diagnostics"] := by
  cases k <;> decide

namespace Draft

variable {k : Intent.Kind} {d : Draft} {c : Context} {ds : List Diagnostic}

/-- A draft with other reports. -/
def withReports (d : Draft) (ds : List Diagnostic) : Draft :=
  { d with diagnostics := ds }

theorem find?_entries_congr {key : String} (hkey : key ∉ ["provenance", "diagnostics"]) :
    Value.find? key (d.entries c now) =
      Value.find? key ((d.withReports ds).entries c now') := by
  simp only [List.mem_cons, List.not_mem_nil, or_false, not_or] at hkey
  have other : ∀ {k : String} (v : Value), k ≠ key → Value.find? key [(k, v)] = none :=
    fun v hk => Value.find?_eq_none (by simpa using hk.symm)
  have split : ∀ (d : Draft) (t : DateTime), d.entries c t =
      [("kind", .str d.kind), ("irVersion", .str "1.0.0")] ++ [("provenance", c.provenance t)] ++
        d.body ++ [("diagnostics", .list (d.diagnostics.map Diagnostic.toValue))] := fun _ _ => rfl
  simp only [split, Value.find?_append, other _ (Ne.symm hkey.1), other _ (Ne.symm hkey.2)]
  rfl

/-- Envelopes of two drafts at different moments come to the same apart from what is changed of
their own fields and of the reports, if these do. -/
theorem entries_alter {d' : Draft} {g : Field Ir.Name → Ir.Part → Ir.Part}
    (hkind : d.kind = d'.kind) (hbody : d.body.map (·.1) = d'.body.map (·.1))
    (hkeys : ∀ e ∈ d.body, e.1 ∈ (ownFields k).map (·.wire)) (ht : now.IsValid) (ht' : now'.IsValid)
    (horigin : ∀ f, f.name = "provenance" → g f = Instance.alter Ir.schema Ir.Part.timeless)
    (hown : ∀ f ∈ ownFields k,
      (fieldOutcome Ir.schema levelLimit (textKeyed (d.entries c now)) f).map (g f) =
        (fieldOutcome Ir.schema levelLimit (textKeyed (d'.entries c now')) f).map (g f))
    (hreports : ∀ f, f.name = "diagnostics" →
      ((Value.list (d.diagnostics.map Diagnostic.toValue)).checker Ir.schema levelLimit
        (.list 0 (.model .diagnostic))).map (g f) =
      ((Value.list (d'.diagnostics.map Diagnostic.toValue)).checker Ir.schema levelLimit
        (.list 0 (.model .diagnostic))).map (g f)) :
    ((d.payload c now).checker Ir.schema levelLimit (.model (envelopeModel k))).map
        (Instance.alter Ir.schema g) =
      ((d'.payload c now').checker Ir.schema levelLimit (.model (envelopeModel k))).map
        (Instance.alter Ir.schema g) := by
  have hrule : (Ir.schema (envelopeModel k)).rule = none := by cases k <;> rfl
  have hkeys' : ∀ e ∈ d'.body, e.1 ∈ (ownFields k).map (·.wire) := by
    rw [← List.forall_mem_map (f := Prod.fst) (P := (· ∈ (ownFields k).map (·.wire)))] at hkeys ⊢
    exact hbody ▸ hkeys
  rw [show d.payload c now = .obj (d.entries c now) from rfl,
    show d'.payload c now' = .obj (d'.entries c now') from rfl]
  refine checker_alter hrule (by simp [entries, hbody]) fun f hf => ?_
  rw [fields_envelope, envelopeFields, List.mem_append, List.mem_append] at hf
  rw [level_envelope]
  rcases hf with (hf | hf) | hf
  · have hfound {key : String} {v : Value} {f : Field Ir.Name} (hf : f.wire = key)
        (h : Value.find? key (d.entries c now) = some v)
          (h' : Value.find? key (d'.entries c now') = some v) :
        fieldOutcome Ir.schema levelLimit (textKeyed (d.entries c now)) f =
          fieldOutcome Ir.schema levelLimit (textKeyed (d'.entries c now')) f := by
      subst hf
      rw [fieldOutcome_of_find? h, fieldOutcome_of_find? h']
    simp only [List.mem_cons, List.not_mem_nil, or_false] at hf
    rcases hf with rfl | rfl | rfl
    · exact congrArg _ (hfound (v := .str d.kind) rfl rfl (hkind ▸ rfl))
    · exact congrArg _ (hfound (v := .str "1.0.0") rfl rfl rfl)
    · have hfound : Value.find? "provenance" (d.entries c now) = some (c.provenance now) := rfl
      have hfound' : Value.find? "provenance" (d'.entries c now') = some (c.provenance now') := rfl
      rw [fieldOutcome_of_find? (f := .required "provenance" "provenance"
        (.model Ir.Name.provenance)) hfound,
        fieldOutcome_of_find? (f := .required "provenance" "provenance" (.model Ir.Name.provenance))
          hfound',
        map_under, map_under, horigin _ rfl]
      exact congrArg _ (provenance_alter c ht ht')
  · exact hown f hf
  · obtain rfl := List.mem_singleton.mp hf
    have hd : Value.find? "diagnostics" (d.entries c now) = some _ := find?_diagnostics hkeys
    have hd' : Value.find? "diagnostics" (d'.entries c now') = some _ := find?_diagnostics hkeys'
    rw [fieldOutcome_of_find? hd, fieldOutcome_of_find? hd', map_under, map_under]
    exact congrArg _ (hreports _ rfl)

/-- Payloads of one draft with different reports at different moments come to the same apart from
what is made of the reports. -/
theorem payload_alter (ds : List Diagnostic) {g : Field Ir.Name → Ir.Part → Ir.Part}
    (hm : d.model = envelopeModel k)
    (hkeys : ∀ e ∈ d.body, e.1 ∈ (ownFields k).map (·.wire)) (ht : now.IsValid) (ht' : now'.IsValid)
    (horigin : ∀ f, f.name = "provenance" → g f = Instance.alter Ir.schema Ir.Part.timeless)
    (hreports : ∀ f, f.name = "diagnostics" →
      ((Value.list (d.diagnostics.map Diagnostic.toValue)).checker Ir.schema levelLimit
        (.list 0 (.model .diagnostic))).map (g f) =
      ((Value.list (ds.map Diagnostic.toValue)).checker Ir.schema levelLimit
        (.list 0 (.model .diagnostic))).map (g f)) :
    ((d.payload c now).checker Ir.schema levelLimit (.model d.model)).map
      (Instance.alter Ir.schema g) =
      (((d.withReports ds).payload c now').checker Ir.schema levelLimit
        (.model d.model)).map (Instance.alter Ir.schema g) := by
  rw [hm]
  refine entries_alter rfl rfl hkeys ht ht' horigin (fun f hf => ?_) hreports
  obtain ⟨hwire, hname⟩ := names_ownFields k f hf
  exact congrArg _ (fieldOutcome_congr (find?_entries_congr hwire) (find?_entries_congr hname))

/-- At whatever moments a draft is settled, it comes to the same envelope apart from the moment, or
to the same rejection. -/
theorem settle_undated (hm : d.model = envelopeModel k)
    (hkeys : ∀ e ∈ d.body, e.1 ∈ (ownFields k).map (·.wire)) (ht : now.IsValid)
      (ht' : now'.IsValid) :
    (d.settle c now).map Ir.Part.undated = (d.settle c now').map Ir.Part.undated := by
  have hpayload := payload_alter d.diagnostics (d := d) (c := c)
    (g := fun f i => if f.name = "provenance" then i.alter Ir.schema Ir.Part.timeless else i) hm
      hkeys ht ht'
    (fun f hf => funext fun i => if_pos hf) (fun f hf => rfl)
  rw [show d.withReports d.diagnostics = d from rfl] at hpayload
  unfold settle
  split
  · rfl
  rw [Value.check_eq_checker, Value.check_eq_checker]
  rcases map_eq_map hpayload with ⟨issues, hx, hy⟩ | ⟨ir, ir', hx, hy, hir⟩
  · rw [hx, hy]
  · rw [hx, hy]
    exact congrArg Except.ok hir

end Draft
end SchemaIntents
