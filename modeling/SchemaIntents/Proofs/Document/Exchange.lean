import Mathlib.Data.List.Lattice
import Mathlib.Data.List.Perm.Basic
import Mathlib.Logic.Equiv.Basic
import SchemaIntents.Proofs.Context.Tracking
import SchemaIntents.Proofs.Document.Steps
import SchemaIntents.Proofs.Document.Tracking

/-! Two adjacent intents of a document that speak of no common entity may change places. All intents
come to the same, and the same entities are known in the end. -/
namespace SchemaIntents.Document

variable {c : Context} {now now' : DateTime} {n : String} {known known' : Option (List String)}
  {i : Nat} {a b v : Value} {before after vs : List Value} {r r' : Result}
    {o : SchemaIntents.Outcome}

namespace Result

/-- A result whose entries belong to other positions. -/
def reindexed (σ : Nat → Nat) (r : Result) : Result :=
  ⟨r.irs, r.failures.map fun f => { f with index := σ f.index }, r.indices.map σ⟩

/-- Two results with the same entries, in whatever order. -/
structure Permutes (r r' : Result) : Prop where
  placed : r.placed.Perm r'.placed
  failures : r.failures.Perm r'.failures

theorem reindexed_record (σ : Nat → Nat) (r : Result) (i : Nat) (v : Value)
    (o : SchemaIntents.Outcome) :
    (r.record i v o).reindexed σ = (r.reindexed σ).record (σ i) v o := by
  cases o <;> rfl

theorem Permutes.record (h : r.Permutes r') (i : Nat) (v : Value) (o : SchemaIntents.Outcome) :
    (r.record i v o).Permutes (r'.record i v o) := by
  cases o with
  | ok ir => exact ⟨h.placed.cons _, h.failures⟩
  | error j => exact ⟨h.placed, h.failures.cons _⟩

/-- Two outcomes may be recorded in either order. -/
theorem permutes_record_record (r : Result) (i j : Nat) (v w : Value)
    (o p : SchemaIntents.Outcome) :
    ((r.record i v o).record j w p).Permutes ((r.record j w p).record i v o) := by
  cases o <;> cases p
  · exact ⟨.refl _, .swap _ _ _⟩
  · exact ⟨.refl _, .refl _⟩
  · exact ⟨.refl _, .refl _⟩
  · exact ⟨.swap _ _ _, .refl _⟩

end Result

/-- A run has no entries for positions before it. -/
theorem reindexed_of_runs {σ : Nat → Nat} (h : Runs now c i vs r) (hσ : ∀ j ≥ i, σ j = j) :
    r.undated.reindexed σ = r.undated := by
  have hindices : r.indices.map σ = r.indices.map id := by
    refine List.map_congr_left fun j hj => hσ j ?_
    rw [← map_fst_placed h] at hj
    exact (bounds_of_recorded h (.inl hj)).1
  have hfailures : (r.failures.map fun f => { f with index := σ f.index }) = r.failures.map id := by
    refine List.map_congr_left fun f hf => ?_
    rw [hσ _ (le_of_mem_failures h hf)]
    rfl
  rw [List.map_id] at hindices hfailures
  rw [Result.reindexed, show r.undated.failures = r.failures from rfl, hfailures,
    show r.undated.indices = r.indices from rfl, hindices]
  rfl

/-- Two intents that do not speak of a common entity, where entities are known at all. -/
def Apart (known : Option (List String)) (a b : Value) : Prop :=
  known = none ∨
    (Resolution.entityNames (.plain a)).Disjoint (Resolution.entityNames (.plain b))

theorem Apart.symm (h : Apart known a b) : Apart known b a :=
  h.imp_right List.Disjoint.symm

theorem Apart.knownFrom (h : Apart known a b) (o : SchemaIntents.Outcome) :
    Apart (knownFrom known o) a b := by
  refine h.imp_left ?_
  rintro rfl
  cases o <;> rfl

/-- What an intent comes to is of no account for one that is apart from it. -/
theorem agree_knownFrom (h : Comes c now a o) (hab : Apart known a b) :
    Agree (knownFrom known o) known b := by
  intro n hn
  rw [contains_knownFrom]
  rcases hab with rfl | hdisjoint
  · rfl
  · rw [effectOf_eq_none h fun ha => hdisjoint ha hn]
    cases known <;> rfl

/-- Intents that are apart leave the same known in either order. -/
theorem knownFrom_comm {oa ob : SchemaIntents.Outcome} {c' : Context} (ha : Comes c now a oa)
    (hb : Comes c' now' b ob) (hab : Apart known a b) (n : String) :
    (knownFrom (knownFrom known oa) ob).map (·.contains n) =
      (knownFrom (knownFrom known ob) oa).map (·.contains n) := by
  simp only [contains_knownFrom]
  rcases hab with rfl | hdisjoint
  · rfl
  · by_cases hn : n ∈ Resolution.entityNames (.plain a)
    · rw [effectOf_eq_none hb (hdisjoint hn)]
      cases known <;> rfl
    · rw [effectOf_eq_none ha hn]
      cases known <;> rfl

/-- Where the same entities are known, a document comes to the same with two adjacent intents that
are apart exchanged. -/
theorem Runs.exchange (h : Runs now (c.withKnown known) i (before ++ a :: b :: after) r)
    (ht : now.IsValid) (ht' : now'.IsValid) (hknown : Alike known known') (hab : Apart known a b) :
    ∃ r', Runs now' (c.withKnown known') i (before ++ b :: a :: after) r' ∧
      r'.undated.Permutes
        (r.undated.reindexed (Equiv.swap (i + before.length) (i + before.length + 1))) ∧
      Alike (r.knownLast known) (r'.knownLast known') := by
  induction before generalizing known known' i r with
  | nil =>
    obtain ⟨oa, _, ha, hnext, rfl⟩ := runs_cons.mp h
    obtain ⟨ob, rest, hb, hrest, rfl⟩ := runs_cons.mp hnext
    have hagreeb : Agree (knownFrom known oa) known' b := fun n hn =>
      (agree_knownFrom ha hab n hn).trans (hknown n)
    obtain ⟨ob', hb', hsameb⟩ := hb.agree ht ht' hagreeb
    have hagreea : Agree known (knownFrom known' ob') a := by
      intro n hn
      rw [contains_knownFrom, ← hknown n, effectOf_congr hsameb, ← contains_knownFrom]
      exact (agree_knownFrom hb hab.symm n hn).symm
    obtain ⟨oa', ha', hsamea⟩ := ha.agree ht ht' hagreea
    have hlater : Alike (knownFrom (knownFrom known oa) ob)
      (knownFrom (knownFrom known' ob') oa') := by
      intro n
      rw [knownFrom_comm ha hb hab]
      simp only [contains_knownFrom, hknown n, effectOf_congr hsamea, effectOf_congr hsameb]
    obtain ⟨rest', hrest', hundated, hlast⟩ := Runs.alike hrest ht ht' hlater
    refine ⟨(rest'.record (i + 1) a oa').record i b ob',
      runs_cons.mpr ⟨ob', _, hb', runs_cons.mpr ⟨oa', _, ha', hrest', rfl⟩, rfl⟩, ?_, ?_⟩
    · have hfixed : rest.undated.reindexed (Equiv.swap i (i + 1)) = rest.undated :=
        reindexed_of_runs hrest fun j hj =>
          Equiv.swap_apply_of_ne_of_ne (by omega) (by omega)
      simp only [List.length_nil, Nat.add_zero, Result.undated_record, Result.reindexed_record,
        hundated, hsamea, hsameb, hfixed, Equiv.swap_apply_left, Equiv.swap_apply_right]
      exact Result.permutes_record_record _ _ _ _ _ _ _
    · simp only [Result.knownLast_record]
      exact hlast
  | cons v before ih =>
    obtain ⟨o, rest, ho, hrest, rfl⟩ := runs_cons.mp h
    obtain ⟨o', ho', hsame⟩ := ho.agree ht ht' fun n _ => hknown n
    have hlater : Alike (knownFrom known o) (knownFrom known' o') := by
      intro n
      rw [contains_knownFrom, contains_knownFrom, hknown n, effectOf_congr hsame]
    obtain ⟨rest', hrest', hpermutes, hlast⟩ := ih hrest hlater (hab.knownFrom o)
    refine ⟨rest'.record i v o', runs_cons.mpr ⟨o', rest', ho', hrest', rfl⟩, ?_, ?_⟩
    · rw [Result.undated_record, Result.undated_record, Result.reindexed_record, hsame,
        List.length_cons, Equiv.swap_apply_of_ne_of_ne (by omega) (by omega)]
      rw [show i + 1 + before.length = i + (before.length + 1) by omega] at hpermutes
      exact hpermutes.record _ _ _
    · simp only [Result.knownLast_record]
      exact hlast

/-- Two documents that are the same but for two adjacent intents, which are exchanged. -/
structure Exchanges (d d' : Document) (i : Nat) (a b : Value) : Prop where
  version : d'.version = d.version
  author : authorModel d'.whole = authorModel d.whole
  intents : ∃ before after, before.length = i ∧ d.intents = before ++ a :: b :: after ∧
    d'.intents = before ++ b :: a :: after

/-- The intents that a document is read with are kept as they are, with texts for keys. -/
theorem intents_of_mappings {d : Document} {l least : Nat}
    (h : (Value.list vs).checker Intent.schema l (.list least .mapping) =
      .ok (d.whole.field Intent.schema "intents")) : d.intents = vs.map Shape.withTextKeys := by
  rw [Shape.checker_list_list] at h
  obtain ⟨is, hi, -, his⟩ := Shape.checkList_eq_ok.mp h
  rw [intents, Intent.Part.items?, Intent.Part.get, hi, Instance.items?, Option.getD_some,
    ← List.forall₂_eq_eq_eq, List.forall₂_map_left_iff, List.forall₂_map_right_iff]
  refine his.flip.imp fun i v hv => ?_
  rw [(Shape.eq_of_checker_mapping hv).1]
  rfl

/-- Plain data with two adjacent intents exchanged is read as the document where they are. -/
theorem exchanges_of_ofValue {es : List (String × Value)} {d : Document}
    (h : ofValue (.obj es) = .ok d)
    (hvs : Value.find? "intents" es = some (.list (before ++ a :: b :: after))) :
    ∃ d', ofValue (.obj (Value.put "intents" (.list (before ++ b :: a :: after)) es)) = .ok d' ∧
      Exchanges d d' before.length (Shape.withTextKeys a) (Shape.withTextKeys b) := by
  rw [ofValue, Intent.parse, Value.check_eq_checker] at h
  cases hwhole : (Value.obj es).checker Intent.schema Shape.levelLimit (.model .document) with
  | error issues => simp [hwhole, Except.map] at h
  | ok whole =>
    rw [hwhole] at h
    obtain rfl := Except.ok.inj h
    have hput := Value.find?_put_self "intents" (.list (before ++ b :: a :: after)) es
    have hmem : .required "intents" "intents" (.list 1 .mapping) ∈
      (Intent.schema .document).fields := by
      simp [Intent.schema, Intent.document]
    have hintents := Instance.field_of_checker (Intent.names_nodup _) hwhole hmem hvs
    obtain ⟨is, his⟩ := Shape.fits_subset (before ++ b :: a :: after) (by simp; omega)
      (by intro v hv; simpa [or_left_comm] using hv) ⟨_, hintents⟩
    obtain ⟨whole', hwhole', hfield, hfields⟩ :=
      Shape.checker_replace rfl (Intent.names_nodup _) hmem (by
        intro u hu hname
        simp only [Intent.schema, Intent.document, List.mem_cons, List.not_mem_nil, or_false] at hu
        rcases hu with rfl | rfl | rfl | rfl | rfl | rfl <;> simp at hname ⊢)
      (by
        rw [Value.keys_put, if_pos]
        simpa [Value.isSome_find?] using congrArg Option.isSome hvs)
      (fun key hkey => (Value.find?_put_of_ne hkey _ _).symm) hput his hwhole
    simp only [Field.required] at hwhole'
    refine ⟨⟨whole', .obj (Value.put "intents" (.list (before ++ b :: a :: after)) es)⟩, ?_, ?_, ?_,
      before.map Shape.withTextKeys, after.map Shape.withTextKeys, ?_, ?_, ?_⟩
    · rw [ofValue, Intent.parse, Value.check_eq_checker, hwhole']
      rfl
    · simp only [version, Intent.Part.text, Intent.Part.get, hfields "version" (by simp)]
    · simp only [authorModel, Intent.Part.part?, Intent.Part.get, hfields "provenance" (by simp)]
    · exact List.length_map _
    · rw [intents_of_mappings hintents]
      simp
    · rw [intents_of_mappings (hfield ▸ his)]
      simp

section Context

variable {settings : Except Settings.Fault Settings} {q : Request} {d d' : Document}

/-- A document with an identity that is asked for has the context of the one with exchanged
intents. -/
theorem context_exchange (h : context settings q d = .ok c) (hd : Exchanges d d' i a b)
    (hq : q.intentId.truthy = true) : context settings q d' = .ok c := by
  obtain ⟨s, id, hs, hid, hc⟩ := context_eq_ok_iff.mp h
  refine context_eq_ok_iff.mpr ⟨s, id, hs, ?_, ?_⟩
  · rw [Identifies, if_pos hq] at hid ⊢
    exact hid
  · rw [arguments, hd.version, hd.author]
    exact hc

/-- Where no entities are given, none are tracked. -/
theorem known_of_context (h : context settings q d = .ok c) (hq : q.known = .null) :
    c.known = none := by
  have hsame := context_untracked h
  rw [← hq, h] at hsame
  exact congrArg Context.known (Except.ok.inj hsame)

end Context

/-- A document with two adjacent intents that speak of no common entity comes to the same when they
are exchanged, apart from their positions. If entities are not tracked, so it does with any two. -/
theorem resolve_exchange {settings : Except Settings.Fault Settings} {q : Request} {d d' : Document}
    (ht : now.IsValid) (ht' : now'.IsValid) (hd : Exchanges d d' i a b)
      (hq : q.intentId.truthy = true)
    (hab : q.known = .null ∨
      (Resolution.entityNames (.plain a)).Disjoint (Resolution.entityNames (.plain b)))
    (h : (resolve settings q now d).result = .ok r) :
    ∃ c r', context settings q d = .ok c ∧ context settings q d' = .ok c ∧
      (resolve settings q now' d').result = .ok r' ∧
      r'.undated.Permutes (r.undated.reindexed (Equiv.swap i (i + 1))) ∧
      Alike (knownBefore c.known r.placed d.intents.length)
        (knownBefore c.known r'.placed d'.intents.length) := by
  obtain ⟨c, hc, hr⟩ := resolve_eq_ok h
  have hruns := runs_of_resolveFrom hr
  have hlast := knownBefore_last hruns c.known
  obtain ⟨before, after, rfl, hintents, hintents'⟩ := hd.intents
  rw [hintents] at hruns
  have hsame : Alike c.known c.known := fun _ => rfl
  obtain ⟨r', hruns', hpermutes, halike⟩ :=
    Runs.exchange (c := c) hruns ht ht' hsame (hab.imp_left (known_of_context hc))
  rw [← hintents'] at hruns'
  have hc' := context_exchange hc hd hq
  have hlast' := knownBefore_last hruns' c.known
  rw [Nat.zero_add] at hpermutes hlast hlast'
  exact ⟨c, r', hc, hc', resolve_of_runs hc' hruns', hpermutes, hlast ▸ hlast' ▸ halike⟩

/-- An entity that is removed from a document. -/
def removal : Value := .obj [
  ("kind", .str "remove_entity"), ("scope", .str "data"), ("entity", .str "User")]

/-- A field of another entity that gets a new name. -/
def newColumn : Value := .obj [
  ("kind", .str "rename_field"), ("scope", .str "data"), ("entity", .str "Order"),
  ("from", .str "total"), ("to", .str "amount")]

/-- A document in which the removed entity is spoken of after the two. -/
def removing : List (String × Value) := [
  ("version", .str "0.1.0"), ("intents", .list [removal, newColumn, removal])]

theorem resolve_exchange_removing :
    let q : Request :=
      { projectId := .str "project", intentId := .str "intent", known := .texts ["User", "Order"] }
    let now : DateTime := ⟨⟨2024, 1, 2⟩, 12, 0, 0, 0, none⟩
    let now' : DateTime := ⟨⟨2024, 1, 3⟩, 12, 0, 0, 0, none⟩
    let settings := .ok Context.plainSettings
    ∃ d d' c r r', ofValue (.obj removing) = .ok d ∧
      ofValue (.obj (Value.put "intents" (.list [newColumn, removal, removal]) removing)) = .ok d' ∧
      context settings q d = .ok c ∧ (resolve settings q now d).result = .ok r ∧
        r.indices = [0, 1] ∧
      (resolve settings q now' d').result = .ok r' ∧
      r'.undated.Permutes (r.undated.reindexed (Equiv.swap 0 1)) ∧
      Alike (knownBefore c.known r.placed d.intents.length)
        (knownBefore c.known r'.placed d'.intents.length) := by
  intro q now now' settings
  have ht : now.IsValid := by decide
  have ht' : now'.IsValid := by decide
  have accepted : ((ofValue (.obj removing)).toOption.bind fun d =>
      (resolve settings q now d).result.toOption).map Result.indices =
        some [0, 1] := by decide +kernel
  obtain ⟨r, hr, hindices⟩ := Option.map_eq_some_iff.mp accepted
  obtain ⟨d, hd, hresult⟩ := Option.bind_eq_some_iff.mp hr
  have hread := eq_ok_of_toOption hd
  have hresolved := eq_ok_of_toOption hresult
  have hintents : Value.find? "intents" removing =
    some (.list ([] ++ removal :: newColumn :: [removal])) := rfl
  obtain ⟨d', hd', hexchanges⟩ := exchanges_of_ofValue hread hintents
  have removed : Resolution.entityNames (.plain (Shape.withTextKeys removal)) = ["User"] := by
    decide +kernel
  have renamed : Resolution.entityNames (.plain (Shape.withTextKeys newColumn)) = ["Order"] := by
    decide +kernel
  obtain ⟨c, r', hc, -, hresolved', hpermutes, halike⟩ :=
    resolve_exchange ht ht' hexchanges rfl (.inr (by rw [removed, renamed]; simp)) hresolved
  exact ⟨d, d', c, r, r', hread, hd', hc, hresolved, hindices, hresolved', hpermutes, halike⟩

end SchemaIntents.Document
