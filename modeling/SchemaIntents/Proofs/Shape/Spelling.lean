import Mathlib.Logic.Relation
import SchemaIntents.Proofs.Shape.Strangers
import SchemaIntents.Proofs.Shape.Writing

/-! The two spellings of a field. A value whose fields are spelled by their names is read like one
whose fields are spelled as on the wire, in whatever order they stand; what is written has the keys
of the wire alone. -/
namespace SchemaIntents

variable {ν : Type} {schema : Schema ν} {n : ν} {es es' : List (String × Value)}

namespace Shape

open Checked Value

/-- A mapping that is read as a model is brought into another order, or one of its fields is spelled
by its name and not by its key on the wire. It has each field in one spelling. -/
inductive Respelling (schema : Schema ν) (n : ν) :
    List (String × Value) → List (String × Value) → Prop
  | order {es es' : List (String × Value)} :
      (es.map (·.1)).Nodup → es.Perm es' → Respelling schema n es es'
  | name {before after : List (String × Value)} {f : Field ν} {v : Value} : f ∈ (schema n).fields →
      f.wire ∉ (before ++ after).map (·.1) → f.name ∉ (before ++ after).map (·.1) →
      Respelling schema n (before ++ (f.wire, v) :: after) (before ++ (f.name, v) :: after)

/-- What a mapping has for a field, in either spelling. -/
def fieldValue? (f : Field ν) (es : List (String × Value)) : Option Value :=
  (find? f.wire es).or (find? f.name es)

theorem fieldOutcome_eq_ok_iff {l : Nat} {f : Field ν} {i : Instance ν} :
    fieldOutcome schema l (textKeyed es) f = .ok i ↔
      match fieldValue? f es with
      | some v => v.checker schema (l - f.level) f.shape = .ok i
      | none => ∃ d, f.fallback = some d ∧ .ofValue d = i := by
  simp only [fieldOutcome, textKeyed, findAny?_text_keys, fieldValue?]
  cases find? f.wire es with
  | some v => exact under_eq_ok
  | none =>
    cases find? f.name es with
    | some v => exact under_eq_ok
    | none => cases f.fallback <;> simp

theorem isSome_spelling? (f : Field ν) :
    (spelling? f ((textKeyed es).map fun e => (e.1, e.2.checker schema))).isSome =
      (fieldValue? f es).isSome := by
  simp only [spelling?, checkerOf?_map, textKeyed, findAny?_text_keys,
    Option.isSome_map, fieldValue?]
  cases find? f.wire es <;> cases find? f.name es <;> rfl

/-- Mappings that have the same for every field are read alike. -/
theorem checker_of_fieldValue? [schema.Whole] (hclosed : (schema n).closed = true)
    (hsame : ∀ f ∈ (schema n).fields, fieldValue? f es' = fieldValue? f es)
      (hspelled : AllSpelled schema n es')
    {l : Nat} {i : Instance ν} (h : (Value.obj es).checker schema l (.model n) = .ok i) :
    (Value.obj es').checker schema l (.model n) = .ok i := by
  rw [checker_obj_model, checkModel_eq_ok] at h ⊢
  refine h.imp_right fun hfits => ?_
  obtain ⟨values, hvalues, -, hrule, rfl⟩ := checkFields_eq_ok.mp hfits
  have hinstance : instanceOf schema n (textKeyed es') values =
      instanceOf schema n (textKeyed es) values := by
    simp only [instanceOf, spellings, List.map_map]
    congr 1
    refine List.map_congr_left fun f hf => ?_
    simp only [Function.comp_apply, isSome_spelling?, hsame f hf]
  refine checkFields_eq_ok.mpr ⟨values, ?_, (strangers_eq_nil_iff hclosed).mpr hspelled,
    ?_, hinstance.symm⟩
  · refine List.forall₂_iff_zip.mpr ⟨hvalues.length_eq, fun {f v} hp => ?_⟩
    have hv := (List.forall₂_iff_zip.mp hvalues).2 hp
    rw [fieldOutcome_eq_ok_iff] at hv ⊢
    rwa [hsame f (List.of_mem_zip hp).1]
  · rwa [hinstance]

section Respelling

variable (hs : schema.Spelled)

include hs

/-- A field that is spelled anew is still there, and so is every other one. -/
theorem Respelling.fieldValue?_eq (h : Respelling schema n es es') :
    ∀ f ∈ (schema n).fields, fieldValue? f es' = fieldValue? f es := by
  intro g hg
  cases h with
  | order hn hp => rw [fieldValue?, fieldValue?, find?_perm hn hp, find?_perm hn hp]
  | @name before after f v hf hwire hname =>
    by_cases hfg : g.wire = f.wire
    · obtain rfl := List.inj_on_of_nodup_map (hs.faithful.wires n) hg hf hfg
      rw [List.map_append, List.mem_append, not_or] at hwire hname
      rw [fieldValue?, fieldValue?, find?_middle hwire.1, Option.some_or]
      by_cases hone : g.wire = g.name
      · rw [hone, find?_middle hname.1, Option.some_or]
      · rw [find?_insert hone, find?_middle hname.1, find?_eq_none, Option.none_or]
        simpa using hwire
    · obtain ⟨hww, hnw⟩ := spellings_ne hs.faithful hs.names hf hg hfg (.inl rfl)
      obtain ⟨hwn, hnn⟩ := spellings_ne hs.faithful hs.names hf hg hfg (.inr rfl)
      simp only [fieldValue?, find?_insert hww, find?_insert hnw, find?_insert hwn,
        find?_insert hnn]

theorem Respelling.allSpelled (h : Respelling schema n es es') (hes : AllSpelled schema n es) :
    AllSpelled schema n es' := by
  intro e he
  cases h with
  | order hn hp =>
    obtain ⟨f, hf, hk⟩ := hes e (hp.mem_iff.mpr he)
    exact ⟨f, hf, by rwa [find?_perm hn hp]⟩
  | @name before after f v hf hwire hname =>
    have hnone : f.wire ≠ f.name → find? f.wire (before ++ (f.name, v) :: after) = none := by
      intro hne
      rw [find?_insert hne, find?_eq_none hwire]
    rw [List.perm_middle.mem_iff, List.mem_cons] at he
    rcases he with rfl | he
    · refine ⟨f, hf, ?_⟩
      by_cases hone : f.wire = f.name
      · exact .inl hone.symm
      · exact .inr ⟨rfl, hnone hone⟩
    · obtain ⟨g, hg, hk⟩ := hes e (List.perm_middle.mem_iff.mpr (List.mem_cons_of_mem _ he))
      refine ⟨g, hg, hk.imp_right fun ⟨hgname, hgwire⟩ => ⟨hgname, ?_⟩⟩
      by_cases hfg : g.wire = f.wire
      · rw [List.map_append, List.mem_append, not_or] at hwire
        rw [hfg, find?_middle hwire.1] at hgwire
        cases hgwire
      · rw [find?_insert (spellings_ne hs.faithful hs.names hf hg hfg (.inl rfl)).1] at hgwire
        rw [find?_insert (spellings_ne hs.faithful hs.names hf hg hfg (.inr rfl)).1, hgwire]

end Respelling

end Shape

/-- One mapping in a value is respelled, which is read as a model. -/
inductive RespelledAt (schema : Schema ν) (s : Shape ν) : Value → Value → Prop
  | intro {v : Value} {place loc : Location} {n : ν} {es es' : List (String × Value)} :
      Leads schema s v place (.model n) (.obj es) loc → Shape.Respelling schema n es es' →
      RespelledAt schema s v (v.replace place (.obj es'))

/-- Any number of mappings in a value are respelled, one after the other. -/
def Respelled (schema : Schema ν) (s : Shape ν) : Value → Value → Prop :=
  Relation.ReflTransGen (RespelledAt schema s)

section Reading

open Shape Value

variable {s : Shape ν} {v v' : Value} {l : Nat} {i : Instance ν}

theorem RespelledAt.checker_eq_ok (hs : schema.Spelled) (hclosed : ∀ n, (schema n).closed = true)
    (hst : s.hasTags schema = true) (h : RespelledAt schema s v v')
      (hi : v.checker schema l s = .ok i) :
    v'.checker schema l s = .ok i := by
  have := hs.faithful.toWhole
  obtain ⟨hleads, hr⟩ := h
  obtain ⟨l', j, hj, hall⟩ := hleads.carries hs hst hi
  have hsame := hr.fieldValue?_eq hs
  obtain ⟨-, hfits⟩ := checkModel_eq_ok.mp (checker_obj_model _ _ _ ▸ hj)
  obtain ⟨-, -, hnone, -, -⟩ := checkFields_eq_ok.mp hfits
  have hspelled := hr.allSpelled hs ((strangers_eq_nil_iff (hclosed _)).mp hnone)
  refine (hall _ fun f hf hname => ?_).ok (checker_of_fieldValue? (hclosed _) hsame hspelled hj)
  -- a field with one spelling is found under it or not at all
  simpa only [fieldValue?, hname, Option.or_self] using hsame f hf

/-- Respelled values are read as the same instance. -/
theorem Respelled.checker_eq_ok (hs : schema.Spelled) (hclosed : ∀ n, (schema n).closed = true)
    (hst : s.hasTags schema = true) (h : Respelled schema s v v')
      (hi : v.checker schema l s = .ok i) :
    v'.checker schema l s = .ok i := by
  induction h with
  | refl => exact hi
  | tail _ hstep ih => exact hstep.checker_eq_ok hs hclosed hst ih

end Reading

section Writing

open Shape Value Instance

theorem Leads.eq_of_isPlain {s t : Shape ν} {v u : Value} {place loc : Location}
    (h : Leads schema s v place t u loc) (hs : s.isPlain = true) : t = s := by
  cases h with
  | here => rfl
  | _ => simp [isPlain] at hs

/-- What stands for an absent field holds no model. -/
theorem not_leads_of_stands {s : Shape ν} {d u : Value} {place loc : Location}
    (h : s.stands d = true) : ¬Leads schema s d place (.model n) u loc := by
  have plain {s : Shape ν} {v : Value} {place loc : Location} (hs : s.isPlain = true) :
      ¬Leads schema s v place (.model n) u loc := by
    intro h
    obtain rfl := h.eq_of_isPlain hs
    simp [isPlain] at hs
  cases s with
  | list least item =>
    intro hleads
    cases hleads with
    | item hv hrest =>
      simp only [stands, Bool.and_eq_true, List.all_eq_true] at h
      exact plain (h.2 _ (List.mem_of_getElem? hv)).1 hrest
  | text | flag | oneOf | mapping => exact plain rfl
  | _ => simp [stands] at h

/-- The written value of a field of a model is that of its instance, which was read or stands for
the absent field. -/
theorem exists_of_find?_written (hs : schema.Faithful) {values : List (Instance ν)}
    {f : Field ν} {k : String}
    {v : Value} (hlen : (schema n).fields.length = values.length) (hf : f ∈ (schema n).fields)
    (hk : k = f.wire ∨ k = f.name ∧ find? f.wire (written schema (schema n).fields values) = none)
    (hv : find? k (written schema (schema n).fields values) = some v) :
    ∃ i, (f, i) ∈ (schema n).fields.zip values ∧ i.isNull = false ∧ v = i.dump schema := by
  obtain ⟨i, hi⟩ := exists_zip_of_mem hlen hf
  have hwritten : find? f.wire (written schema _ values) = _ := find?_written (hs.wires n) hi
  rcases hk with rfl | ⟨rfl, hnone⟩
  · rw [hwritten] at hv
    split at hv
    case isTrue => cases hv
    case isFalse hnull => exact ⟨i, hi, by simpa using hnull, (Option.some.inj hv).symm⟩
  · rw [hwritten] at hnone
    split at hnone
    case isTrue hnull => simp [find?_name_written hs hi hnull] at hv
    case isFalse => cases hnone

/-- In what is written every mapping that stands for a model has the keys of the wire alone. -/
theorem Reads.wires_of_leads (hs : schema.Faithful) {l : Nat} {s : Shape ν} {v : Value}
    {i : Instance ν} {place loc : Location} (h : Reads schema l s v i)
    (hleads : Leads schema s (i.dump schema) place (.model n) (.obj es) loc) :
    ∀ e ∈ es, e.1 ∈ (schema n).fields.map (·.wire) := by
  generalize hu : i.dump schema = u at hleads
  generalize ht : Shape.model n = t at hleads
  generalize hw : Value.obj es = w at hleads
  induction hleads generalizing l v i with
  | here =>
    subst ht hu
    cases h with
    | plain hp => simp [isPlain] at hp
    | model =>
      rw [dump_model] at hw
      obtain rfl := Value.obj.inj hw
      intro e he
      obtain ⟨f, hf, hk⟩ := wire_of_mem_written he
      exact hk ▸ List.mem_map_of_mem hf
  | @some _ _ _ _ place _ hrest ih =>
    subst hw
    cases h with
    | plain hp => simp [isPlain] at hp
    | null =>
      have hat := hrest.at?
      rw [← hu] at hat
      cases place <;> simp [dump, Value.at?] at hat
    | some _ h => exact ih h hu ht rfl
  | item hv _ ih =>
    cases h with
    | plain hp => simp [isPlain] at hp
    | @list _ _ _ _ is origin _ _ hread =>
      rw [dump, dumpAll_eq, Value.list.injEq] at hu
      have hmem := List.mem_of_getElem? hv
      rw [← hu] at hmem
      obtain ⟨i, hi, hiv⟩ := List.mem_map.mp hmem
      exact ih (hread i hi) hiv ht hw
  | entry hv _ ih =>
    cases h with
    | plain hp => simp [isPlain] at hp
    | @table _ _ _ entries origin _ hread =>
      rw [dump, dumpEntries_eq, Value.obj.injEq] at hu
      have hmem := mem_of_find? hv
      rw [← hu] at hmem
      obtain ⟨e, he, hiv⟩ := List.mem_map.mp hmem
      exact ih (hread e he) (Prod.mk.inj hiv).2 ht hw
  | @field _ n f _ _ _ _ _ _ hf hk hv hrest ih =>
    subst ht hw
    cases h with
    | plain hp => simp [isPlain] at hp
    | @model _ _ _ given values origin _ hlen _ hread _ =>
      rw [dump_model, Value.obj.injEq] at hu
      subst hu
      obtain ⟨j, hj, hnull, rfl⟩ := exists_of_find?_written hs hlen hf hk hv
      rcases f.absent_or j with ⟨d, hd, rfl⟩ | hne
      · rw [dump_ofValue] at hrest
        rcases Field.null_or_stands (hs.settled n f hf) hd with rfl | hst
        · simp [ofValue, isNull] at hnull
        · exact absurd hrest (not_leads_of_stands hst)
      · exact ih (hread _ hj hne) rfl rfl rfl
  | @chosen _ _ _ _ _ _ _ _ _ htag hc _ ih =>
    cases h with
    | plain hp => simp [isPlain] at hp
    | @tagged _ _ t _ m _ given values f hc' hmem hwire hread =>
      have hu' := hu
      rw [dump_model, Value.obj.injEq] at hu
      rw [← hu, ← hwire, find?_written (hs.wires _) hmem] at htag
      have hword : Value.str t = .str _ := Option.some.inj htag
      obtain rfl := Value.str.inj hword
      obtain ⟨-, rfl⟩ := Prod.mk.inj (Option.some.inj (hc'.symm.trans hc))
      exact ih hread hu' ht hw

end Writing

end SchemaIntents
