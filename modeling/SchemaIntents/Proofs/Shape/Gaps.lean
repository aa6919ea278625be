import SchemaIntents.Proofs.Shape.Rereading

/-! Where nothing can be missing: models whose required fields are never null, and which name only
models of the same sort. -/
namespace SchemaIntents

variable {ν : Type} {schema : Schema ν}

namespace Shape

/-- Whether all models that a shape names are of a sort. -/
def allModels (sort : ν → Bool) : Shape ν → Bool
  | list _ s | table s | optional s => s.allModels sort
  | model n => sort n
  | tagged _ choices => choices.all fun c => sort c.2
  | _ => true

end Shape

/-- A field that is not missing when it is written and read again, nor is anything in it. -/
def Field.isSolid (sort : ν → Bool) (f : Field ν) : Bool :=
  f.shape.allModels sort && (f.fallback.isSome || !f.shape.admitsNull)

namespace Instance

open Shape

/-- All fields of the models of a sort are solid. -/
def Solid (schema : Schema ν) (sort : ν → Bool) : Prop :=
  ∀ n, sort n = true → ∀ f ∈ (schema n).fields, f.isSolid sort = true

/-- A solid field has no gap if what is read for it has none. -/
theorem gapsField_eq_nil (hs : schema.Faithful) {sort : ν → Bool} {n : ν} {f : Field ν}
    {v : Instance ν} {l : Nat} {w : Value} (hm : f ∈ (schema n).fields) (hf : f.isSolid sort = true)
    (hread : (∀ d, f.fallback = some d → v ≠ .ofValue d) → Reads schema l f.shape w v)
    (hgaps : (∀ d, f.fallback = some d → v ≠ .ofValue d) → f.shape.allModels sort = true →
      v.gapsAs schema f.shape = []) : gapsField schema f v = [] := by
  simp only [Field.isSolid, Bool.and_eq_true, Bool.or_eq_true, Bool.not_eq_true'] at hf
  unfold gapsField
  by_cases hv : v.isNull = true
  · rw [if_pos hv]
    cases hd : f.fallback with
    | some d => rfl
    | none =>
      obtain rfl := isNull_iff.mp hv
      have hread := hread (by simp [hd])
      have hnull := admitsNull_of_reads hread (hs.shapes n f hm)
      simp [hd, hnull] at hf
  · rw [if_neg hv]
    rcases f.absent_or v with ⟨d, -, rfl⟩ | hne
    · simp [gapsAs_ofValue]
    · simp [hgaps hne hf.1]

/-- What names only models of a solid sort has no gaps. -/
theorem gapsAs_eq_nil (hs : schema.Faithful) {sort : ν → Bool} (hsolid : Solid schema sort)
    {l : Nat} {s : Shape ν} {v : Value} {i : Instance ν} (h : Reads schema l s v i)
    (ha : s.allModels sort = true) : i.gapsAs schema s = [] := by
  induction h with
  | plain | null => rfl
  | some _ _ ih => rw [gapsAs_optional, ih ha]
  | @list l least s v is origin _ _ _ ih =>
    rw [gapsAs, gapsAll_eq, List.flatMap_eq_nil_iff]
    intro p hp
    simp [part, ih p.1 (List.fst_mem_of_mem_zipIdx hp) ha]
  | table origin _ _ ih =>
    rw [gapsAs, gapsEntries_eq, List.flatMap_eq_nil_iff]
    intro e he
    simp [part, ih e he ha]
  | @model l n v given values origin _ _ _ hread _ ih =>
    rw [gapsAs_model, gapsFields_eq, List.flatMap_eq_nil_iff]
    intro p hp
    have hm := (List.of_mem_zip hp).1
    exact gapsField_eq_nil hs hm (hsolid n ha p.1 hm) (hread p hp) (ih p hp)
  | @tagged l tag t choices n v given values f hc _ _ _ ih =>
    have hn : sort n = true := by
      simp only [allModels, List.all_eq_true] at ha
      exact ha _ (List.mem_of_find?_eq_some hc)
    have hg := ih hn
    rw [gapsAs_model] at hg
    simp [gapsAs, hg]

theorem flatMap_single {α β : Type} {key : α → String} {F : α → List β} {as : List α} {a : α}
    (hn : (as.map key).Nodup) (ha : a ∈ as) (h : ∀ b ∈ as, key b ≠ key a → F b = []) :
    as.flatMap F = F a := by
  induction as with
  | nil => simp at ha
  | cons b as ih =>
    simp only [List.map_cons, List.nodup_cons, List.mem_map, not_exists, not_and] at hn
    rw [List.forall_mem_cons] at h
    rw [List.flatMap_cons]
    rcases List.mem_cons.mp ha with rfl | ha
    · have rest : as.flatMap F = [] :=
        List.flatMap_eq_nil_iff.mpr fun c hc => h.2 c hc (hn.1 c hc)
      rw [rest, List.append_nil]
    · rw [h.1 fun he => hn.1 a ha he.symm, ih hn.2 ha h.2, List.nil_append]

/-- Where all fields but one are solid, the gaps are those of that field. -/
theorem gapsFields_single (hs : schema.Faithful) {sort : ν → Bool} (hsolid : Solid schema sort)
    {l : Nat} {n : ν} {v : Value} {given : List Bool} {values : List (Instance ν)} {f : Field ν}
    {u : Instance ν} (h : Reads schema l (.model n) v (.model n given values))
    (hrest : ∀ g ∈ (schema n).fields, g.wire ≠ f.wire → g.isSolid sort = true)
    (hu : (f, u) ∈ (schema n).fields.zip values) :
    gapsFields schema (schema n).fields values = gapsField schema f u := by
  cases h with
  | model origin _ hlen _ hread _ =>
    have firsts : ((schema n).fields.zip values).map (·.1) = (schema n).fields :=
      List.map_fst_zip (Nat.le_of_eq hlen)
    have hn : (((schema n).fields.zip values).map (·.1.wire)).Nodup := by
      have := hs.wires n
      rw [← firsts, List.map_map] at this
      exact this
    rw [gapsFields_eq]
    refine flatMap_single (F := fun p => gapsField schema p.1 p.2) hn hu fun p hp hne => ?_
    have hm := (List.of_mem_zip hp).1
    exact gapsField_eq_nil hs hm (hrest p.1 hm hne) (hread p hp)
      fun hd ha => gapsAs_eq_nil hs hsolid (hread p hp hd) ha

/-- A model with one field that is not solid: its gaps are those of what it has there, and that was
read for the field. -/
theorem gapsAs_single (hs : schema.Faithful) {sort : ν → Bool} (hsolid : Solid schema sort)
    (hnames : ∀ n, ((schema n).fields.map (·.name)).Nodup)
    {l : Nat} {n : ν} {v : Value} {x : Instance ν} {f : Field ν}
    (h : Reads schema l (.model n) v x) (hf : f ∈ (schema n).fields)
    (hrest : ∀ g ∈ (schema n).fields, g.wire ≠ f.wire → g.isSolid sort = true) :
    x.gapsAs schema (.model n) = gapsField schema f (x.field schema f.name) ∧
      ((∀ d, f.fallback = some d → x.field schema f.name ≠ .ofValue d) →
        ∃ k w, Reads schema k f.shape w (x.field schema f.name)) := by
  cases h with
  | plain hp => simp [isPlain] at hp
  | model origin hl hlen ho hread hr =>
    obtain ⟨u, hu⟩ := exists_zip_of_mem hlen hf
    rw [gapsAs_model, field_model (hnames n) hu,
      gapsFields_single hs hsolid (.model origin hl hlen ho hread hr) hrest hu]
    exact ⟨rfl, fun hd => ⟨_, _, hread _ hu hd⟩⟩

end Instance
end SchemaIntents
