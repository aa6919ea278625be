import Mathlib.Data.List.Nodup
import SchemaIntents.Proofs.Context.Construction
import SchemaIntents.Proofs.Document.Runs
import SchemaIntents.Proofs.Resolution.Acceptance

/-! Which entities are known along a document. A name is known where the last accepted envelope that
speaks of its existence made it exist, and what is accepted is sound for the names known there. -/
namespace SchemaIntents

/-- Whether an envelope makes an entity of a name exist, or makes it vanish, or neither. -/
def effect (name : String) (ir : Ir.Part) : Option Bool :=
  let text (field : String) := (ir.field Ir.schema field).text
  match ir.kind with
  | "AddEntity" =>
    if ((ir.field Ir.schema "entity").field Ir.schema "name").text = name then some true else none
  | "RemoveEntity" => if text "entity_name" = name then some false else none
  | "RenameEntity" =>
    if text "to_name" = name then some true
    else if text "from_name" = name then some false
    else none
  | _ => none

section Added

variable {names : List String} {x : String}

theorem mem_added {n : String} :
    n ∈ (if names.contains x then names else names ++ [x]) ↔ n = x ∨ n ∈ names := by
  split
  · rename_i hx
    rw [List.contains_iff_mem] at hx
    constructor
    · exact .inr
    · rintro (rfl | hn)
      · exact hx
      · exact hn
  · simp [or_comm]

theorem nodup_added (hn : names.Nodup) :
    (if names.contains x then names else names ++ [x]).Nodup := by
  split
  · exact hn
  · rename_i hx
    rw [List.contains_iff_mem] at hx
    exact List.nodup_append.mpr ⟨hn, by simp, by
      rintro a ha b hb rfl
      obtain rfl := List.mem_singleton.mp hb
      exact hx ha⟩

theorem length_added (hx : x ∉ names) :
    (if names.contains x then names else names ++ [x]).length = names.length + 1 := by
  rw [if_neg (by simpa using hx)]
  simp

end Added

section Effect

variable {ir : Ir.Part} {n : String}

theorem effect_of_added (hk : ir.kind = "AddEntity") : effect n ir =
    if ((ir.field Ir.schema "entity").field Ir.schema "name").text =
      n then some true else none := by
  simp only [effect, hk]

theorem effect_of_removed (hk : ir.kind = "RemoveEntity") : effect n ir =
    if (ir.field Ir.schema "entity_name").text = n then some false else none := by
  simp only [effect, hk]

theorem effect_of_renamed (hk : ir.kind = "RenameEntity") : effect n ir =
    if (ir.field Ir.schema "to_name").text = n then some true
    else if (ir.field Ir.schema "from_name").text = n then some false else none := by
  simp only [effect, hk]

theorem effect_of_other (hadd : ir.kind ≠ "AddEntity") (hremove : ir.kind ≠ "RemoveEntity")
    (hrename : ir.kind ≠ "RenameEntity") : effect n ir = none := by
  unfold effect
  split <;> first | contradiction | rfl

end Effect

/-- A name is known after an envelope as the envelope has it, or else as before. -/
theorem mem_knownAfter {names later : List String} {ir : Ir.Part}
    (h : knownAfter (some names) ir = some later) (n : String) :
    n ∈ later ↔ effect n ir = some true ∨ effect n ir = none ∧ n ∈ names := by
  simp only [knownAfter, Option.map_some, Option.some.injEq] at h
  subst h
  split
  case h_1 hk =>
    rw [mem_added, effect_of_added hk]
    by_cases hn : ((ir.field Ir.schema "entity").field Ir.schema "name").text = n
    · simp [hn]
    · simp [hn, Ne.symm hn]
  case h_2 hk =>
    rw [List.mem_filter, effect_of_removed hk]
    by_cases hn : (ir.field Ir.schema "entity_name").text = n
    · simp [hn]
    · simp [hn, Ne.symm hn]
  case h_3 hk =>
    rw [mem_added, List.mem_filter, effect_of_renamed hk]
    by_cases hnew : (ir.field Ir.schema "to_name").text = n
    · simp [hnew]
    · by_cases hold : (ir.field Ir.schema "from_name").text = n
      · simp [hnew, hold, Ne.symm hnew]
      · simp [hnew, hold, Ne.symm hnew, Ne.symm hold]
  case h_4 hadd hremove hrename => simp [effect_of_other hadd hremove hrename]

theorem nodup_knownAfter {names later : List String} {ir : Ir.Part} (hn : names.Nodup)
    (h : knownAfter (some names) ir = some later) : later.Nodup := by
  simp only [knownAfter, Option.map_some, Option.some.injEq] at h
  subst h
  split
  · exact nodup_added hn
  · exact hn.filter _
  · exact nodup_added (hn.filter _)
  · exact hn

/-- A sound new name keeps the number of known entities. -/
theorem length_knownAfter {names later : List String} {ir : Ir.Part} (hn : names.Nodup)
    (hk : ir.kind = "RenameEntity") (hs : SoundFor names ir)
    (h : knownAfter (some names) ir = some later) : later.length = names.length := by
  simp only [SoundFor, hk, Ir.Part.get] at hs
  obtain ⟨hfrom, hto⟩ := hs
  simp only [knownAfter, Option.map_some, Option.some.injEq, hk] at h
  subst h
  rw [length_added fun hm => hto (List.mem_filter.mp hm).1, ← List.Nodup.erase_eq_filter hn,
    List.length_erase_of_mem hfrom]
  have := List.length_pos_of_mem hfrom
  omega

namespace Document

/-- What the accepted envelopes before a position last say about an entity. -/
def lastEffect (name : String) (irs : List (Nat × Ir.Part)) (i : Nat) : Option Bool :=
  ((irs.filter fun e => e.1 < i).filterMap fun e => effect name e.2).getLast?

/-- What is known after some envelopes is decided by the last of them that speaks of it. -/
theorem foldl_knownAfter (es : List (Nat × Ir.Part)) (names : List String) :
    ∃ later, es.foldl (fun known e => knownAfter known e.2) (some names) = some later ∧
      (names.Nodup → later.Nodup) ∧
      ∀ n, n ∈ later ↔ (es.filterMap fun e => effect n e.2).getLast? = some true ∨
        (es.filterMap fun e => effect n e.2).getLast? = none ∧ n ∈ names := by
  induction es generalizing names with
  | nil => exact ⟨names, rfl, id, by simp⟩
  | cons e es ih =>
    obtain ⟨next, hnext⟩ : ∃ next, knownAfter (some names) e.2 = some next := by simp [knownAfter]
    obtain ⟨later, hfold, hnodup, hmem⟩ := ih next
    refine ⟨later, by rw [List.foldl_cons, hnext, hfold],
      fun hn => hnodup (nodup_knownAfter hn hnext), fun n => ?_⟩
    rw [hmem, mem_knownAfter hnext]
    cases he : effect n e.2 with
    | none => simp [he]
    | some known =>
      simp only [List.filterMap_cons, he, List.getLast?_cons]
      cases (es.filterMap fun e => effect n e.2).getLast? <;> simp

/-- The entities that are known at each position of a document. -/
structure Tracks (c : Context) (now : DateTime) (d : Document) (r : Result) (first : List String)
    (known : Nat → List String) : Prop where
  /-- From each position on, the rest of the document is resolved with what is known there. -/
  resolves : ∀ i ≤ d.intents.length,
    (resolveFrom (c.withKnown (some (known i))) now i (d.intents.drop i)).result = .ok (r.since i)
  mem_iff : ∀ i n, n ∈ known i ↔
    lastEffect n r.placed i = some true ∨ lastEffect n r.placed i = none ∧ n ∈ first
  nodup : ∀ i, (known i).Nodup
  sound : ∀ i ir, (i, ir) ∈ r.placed → SoundFor (known i) ir
  /-- A new name is none of the old ones, and takes the place of one of them. -/
  renames : ∀ i ir, (i, ir) ∈ r.placed → ir.kind = "RenameEntity" →
    (ir.get "from_name").text ≠ (ir.get "to_name").text ∧ (known (i + 1)).length = (known i).length
  unchanged : ∀ f ∈ r.failures, known (f.index + 1) = known f.index

/-- Whatever the intents are, what is known at each position is what the envelopes before it make of
the entities that were given. -/
theorem tracks_of_resolveFrom {c : Context} {now : DateTime} {d : Document} {r : Result}
    {first once : List String} (h : (resolveFrom c now 0 d.intents).result = .ok r)
    (hc : c.known = some once) (hn : once.Nodup) (hm : ∀ n, n ∈ once ↔ n ∈ first) :
    ∃ known, Tracks c now d r first known := by
  have hr := runs_of_resolveFrom h
  choose known hknown hnodup hmem using fun i =>
    foldl_knownAfter (r.placed.filter fun e => e.1 < i) once
  have before : ∀ i, knownBefore c.known r.placed i = some (known i) := fun i => by
    rw [hc]
    exact hknown i
  -- the intent at the position of an envelope is the one that the envelope was made of
  have made : ∀ i ir, (i, ir) ∈ r.placed → SoundFor (known i) ir ∧
      knownAfter (some (known i)) ir = some (known (i + 1)) := by
    intro i ir hir
    have hlt := lt_of_mem_placed hr hir
    simp only [Nat.zero_add] at hlt
    have ho := outcome_of_runs hr (List.getElem?_eq_getElem hlt)
    rw [Nat.zero_add, before, before] at ho
    cases ho with
    | @accepted ir' hir' ho hnext =>
      have same := List.inj_on_of_nodup_map (List.pairwise_map.mpr
        ((placed_increasing hr).imp Nat.ne_of_lt)) hir hir' rfl
      obtain rfl := (Prod.mk.inj same).2
      obtain ⟨k, -, hk⟩ := Resolution.of_eq_ok ho
      exact ⟨soundFor_of_ofKind hk, hnext.symm⟩
    | refused hf => exact absurd rfl (ne_of_mem_failures hr hf hir)
  refine ⟨known, ?_, fun i n => ?_, fun i => hnodup i hn, fun i ir hir => (made i ir hir).1,
    fun i ir hir hk => ?_, fun f hf => ?_⟩
  · intro i hi
    have hd := resolveFrom_of_runs (hr.drop hi)
    rwa [Nat.zero_add, before] at hd
  · rw [hmem, hm, lastEffect]
  · obtain ⟨hsound, hnext⟩ := made i ir hir
    refine ⟨fun heq => ?_, length_knownAfter (hnodup i hn) hk hsound hnext⟩
    simp only [SoundFor, hk] at hsound
    exact hsound.2 (heq ▸ hsound.1)
  · have none_at : r.placed.filter (fun e => e.1 = f.index) = [] := by
      rw [List.filter_eq_nil_iff]
      intro e he
      simpa using ne_of_mem_failures hr hf he
    have same : knownBefore c.known r.placed (f.index + 1) =
      knownBefore c.known r.placed f.index := by
      rw [knownBefore, filter_lt_succ (placed_increasing hr), none_at, List.append_nil, knownBefore]
    rw [before, before] at same
    exact Option.some.inj same

/-- The context of a document knows the entities of its request and is valid. -/
theorem context_eq_ok {settings : Except Settings.Fault Settings} {q : Request} {d : Document}
    {c : Context} (h : context settings q d = .ok c) :
    ∃ arguments, Context.ofArguments settings arguments = .ok c ∧
      Value.find? "existing_entities" arguments = some q.known ∧
      (Value.find? "oiml_version" arguments).isSome := by
  simp only [context] at h
  split at h
  · obtain ⟨s, -, h⟩ := bind_eq_ok h
    split at h
    · obtain ⟨id, -, h⟩ := bind_eq_ok h
      split at h
      · obtain rfl := Except.ok.inj h
        exact ⟨_, ‹_›, rfl, rfl⟩
      · exact absurd h throw_ne_ok
    · split at h
      · obtain ⟨id, -, h⟩ := bind_eq_ok h
        split at h
        · obtain rfl := Except.ok.inj h
          exact ⟨_, ‹_›, rfl, rfl⟩
        · exact absurd h throw_ne_ok
      · obtain ⟨id, hid, -⟩ := bind_eq_ok h
        exact absurd hid throw_ne_ok
  · obtain ⟨s, hs, -⟩ := bind_eq_ok h
    exact absurd hs throw_ne_ok

/-- A document that is resolved is resolved in its context. -/
theorem resolve_eq_ok {settings : Except Settings.Fault Settings} {q : Request} {now : DateTime}
    {d : Document} {r : Result} (h : (resolve settings q now d).result = .ok r) :
    ∃ c, context settings q d = .ok c ∧ (resolveFrom c now 0 d.intents).result = .ok r := by
  unfold resolve at h
  split at h
  · simp at h
  · refine ⟨_, ‹_›, ?_⟩
    simp only [Run.map, resolveIn] at h
    split at h
    · rename_i hr
      rw [hr, Except.ok.inj h]
    · simp at h

/-- Along every document that is resolved, an entity is known where the last accepted envelope
before that speaks of it made it exist, or where none does and it was known from the start; what is
accepted there is sound for what is known. -/
theorem known_of_resolve {settings : Except Settings.Fault Settings} {q : Request} {now : DateTime}
    {d : Document} {r : Result} {first : List String}
    (h : (resolve settings q now d).result = .ok r) (hq : Context.Lists q.known first) :
    ∃ c known, context settings q d = .ok c ∧ Tracks c now d r first known := by
  obtain ⟨c, hc, hr⟩ := resolve_eq_ok h
  obtain ⟨arguments, ha, hknown, -⟩ := context_eq_ok hc
  obtain ⟨once, honce, hn, hm⟩ := Context.known_of_lists ha hknown hq
  obtain ⟨known, htracks⟩ := tracks_of_resolveFrom hr honce hn hm
  exact ⟨c, known, hc, htracks⟩

/-- A document in which an entity gets a new name, and is spoken of by both names before and
after. -/
def renamed : Value := .obj [
  ("version", .str "0.1.0"),
  ("intents", .list [
    .obj [("kind", .str "remove_entity"), ("scope", .str "data"), ("entity", .str "Person")],
    .obj [("kind", .str "rename_entity"), ("scope", .str "data"), ("from", .str "User"),
      ("to", .str "Person")],
    .obj [("kind", .str "remove_field"), ("scope", .str "data"), ("entity", .str "Person"),
      ("fields", .texts ["age"])],
    .obj [("kind", .str "remove_entity"), ("scope", .str "data"), ("entity", .str "User")]])]

theorem known_of_resolve_renamed :
    let q : Request :=
      { projectId := .str "project", intentId := .str "intent", known := .texts ["User"] }
    let now : DateTime := ⟨⟨2024, 1, 2⟩, 12, 0, 0, 0, none⟩
    ∃ d r c known, ofValue renamed = .ok d ∧
      (resolve (.ok Context.plainSettings) q now d).result = .ok r ∧ r.indices = [1, 2] ∧
      context (.ok Context.plainSettings) q d = .ok c ∧ Tracks c now d r ["User"] known := by
  intro q now
  have accepted : ((ofValue renamed).toOption.bind fun d =>
      (resolve (.ok Context.plainSettings) q now d).result.toOption).map Result.indices =
        some [1, 2] := by decide +kernel
  obtain ⟨r, hr, hindices⟩ := Option.map_eq_some_iff.mp accepted
  obtain ⟨d, hd, hresult⟩ := Option.bind_eq_some_iff.mp hr
  have hresolved := eq_ok_of_toOption hresult
  obtain ⟨c, known, hc, htracks⟩ := known_of_resolve hresolved (.list ["User"])
  exact ⟨d, r, c, known, eq_ok_of_toOption hd, hresolved, hindices, hc, htracks⟩

end Document
end SchemaIntents
