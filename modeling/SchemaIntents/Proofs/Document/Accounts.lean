import SchemaIntents.Proofs.Document.Known
import SchemaIntents.Proofs.Json.Ordering
import SchemaIntents.Proofs.Resolution.Reports

/-! Every intent of a document is accounted for: it has one envelope or one failure, and all that
was reported is listed in the order of the intents. -/
namespace SchemaIntents.Document

open Resolution (Reported)

namespace Result

/-- What was reported, with the positions of the envelopes and failures that it was reported for. -/
def groups (r : Result) : List (Nat × List Diagnostic) :=
  r.placed.map (fun e => (e.1, e.2.diagnostics)) ++ r.failures.map fun f => (f.index, f.diagnostics)

/-- The positions of the intents that failed. -/
def failed (r : Result) : List Nat :=
  r.failures.map (·.index)

/-- What was reported for a position. -/
def reportedAt (r : Result) (i : Nat) : List Diagnostic :=
  ((r.groups.find? fun g => g.1 = i).map (·.2)).getD []

theorem map_fst_groups (r : Result) : r.groups.map (·.1) = r.placed.map (·.1) ++ r.failed := by
  simp [groups, failed, Function.comp_def]

theorem diagnostics_eq_sortBy (r : Result) :
    r.diagnostics = (Json.sortBy (fun i j => decide (i ≤ j)) r.groups).flatMap (·.2) :=
  rfl

/-- What is recorded for a position is what was reported for it, if nothing else is recorded
there. -/
theorem reportedAt_eq {r : Result} (hn : (r.groups.map (·.1)).Nodup) {g : Nat × List Diagnostic}
    (hg : g ∈ r.groups) : r.reportedAt g.1 = g.2 := by
  have hfound : (r.groups.find? fun g' => g'.1 = g.1).isSome :=
    List.find?_isSome.mpr ⟨g, hg, by simp⟩
  obtain ⟨g', hg'⟩ := Option.isSome_iff_exists.mp hfound
  have hkey : g'.1 = g.1 := by simpa using List.find?_some hg'
  obtain rfl := List.inj_on_of_nodup_map hn (List.mem_of_find?_eq_some hg') hg hkey
  rw [reportedAt, hg', Option.map_some, Option.getD_some]

/-- Where each position below a bound is recorded once, what was reported is listed position by
position. -/
theorem diagnostics_eq_flatMap {r : Result} {n : Nat} (hn : (r.groups.map (·.1)).Nodup)
    (hm : ∀ i, i ∈ r.groups.map (·.1) ↔ i < n) :
    r.diagnostics = (List.range n).flatMap r.reportedAt := by
  have hsorted : Json.sortBy (fun i j => decide (i ≤ j)) r.groups =
      (List.range n).map fun i => (i, r.reportedAt i) := by
    refine Json.sortBy_eq Json.orders_positions hn ?_ ?_
    · have hn' : ((List.range n).map fun i => (i, r.reportedAt i)).Nodup :=
        List.nodup_range.map fun i j h => (Prod.mk.inj h).1
      refine (List.perm_ext_iff_of_nodup hn' hn.of_map).mpr fun g => ?_
      simp only [List.mem_map, List.mem_range, ← hm]
      constructor
      · rintro ⟨i, ⟨g', hg', rfl⟩, rfl⟩
        rwa [reportedAt_eq hn hg']
      · intro hg
        exact ⟨g.1, ⟨g, hg, rfl⟩, by rw [reportedAt_eq hn hg]⟩
    · rw [List.pairwise_map]
      exact List.pairwise_lt_range.imp fun h => by simpa using Nat.le_of_lt h
  rw [diagnostics_eq_sortBy, hsorted, List.flatMap_map]

end Result

variable {c : Context} {now : DateTime} {i : Nat} {vs : List Value} {r : Result}

/-- Failures are recorded in the order of their positions. -/
theorem failures_increasing (h : Runs now c i vs r) : r.failures.Pairwise (·.index < ·.index) := by
  induction h with
  | done => exact .nil
  | accepted _ _ ih => exact ih
  | refused _ hr ih => exact .cons (fun _ hf => le_of_mem_failures hr hf) ih

/-- Every position of a document has an envelope or a failure, and no other position has. -/
theorem mem_indices_or_failed (h : Runs now c 0 vs r) (i : Nat) :
    i ∈ r.indices ∨ i ∈ r.failed ↔ i < vs.length := by
  constructor
  · intro hi
    rw [← map_fst_placed h] at hi
    simpa using (bounds_of_recorded h hi).2
  · intro hi
    have ho := outcome_of_runs h (List.getElem?_eq_getElem hi)
    rw [Nat.zero_add] at ho
    cases ho with
    | accepted hir => exact .inl (map_fst_placed h ▸ List.mem_map.mpr ⟨_, hir, rfl⟩)
    | refused hf => exact .inr (List.mem_map.mpr ⟨_, hf, rfl⟩)

theorem not_mem_failed (h : Runs now c i vs r) {j : Nat} (hj : j ∈ r.indices) : j ∉ r.failed := by
  intro hf
  rw [← map_fst_placed h] at hj
  obtain ⟨e, he, rfl⟩ := List.mem_map.mp hj
  obtain ⟨f, hf, hindex⟩ := List.mem_map.mp hf
  exact ne_of_mem_failures h hf he hindex.symm

/-- No position is recorded twice. -/
theorem nodup_groups (h : Runs now c i vs r) : (r.groups.map (·.1)).Nodup := by
  rw [Result.map_fst_groups]
  refine List.nodup_append.mpr
    ⟨?_, ?_, fun j hj k hk hjk => not_mem_failed h (map_fst_placed h ▸ hj) (hjk ▸ hk)⟩
  · exact List.pairwise_map.mpr ((placed_increasing h).imp Nat.ne_of_lt)
  · exact List.pairwise_map.mpr ((failures_increasing h).imp Nat.ne_of_lt)

/-- What is recorded for an intent is what was reported about it with the entities known there. -/
theorem reported_reportedAt (h : Runs now c 0 vs r) {v : Value} (hv : vs[i]? = some v) :
    Reported (c.withKnown (knownBefore c.known r.placed i)) now (.plain v) (r.reportedAt i) := by
  have hn := nodup_groups h
  have ho := outcome_of_runs h hv
  rw [Nat.zero_add] at ho
  cases ho with
  | @accepted ir hir ho =>
    have hg : (i, ir.diagnostics) ∈ r.groups :=
      List.mem_append_left _ (List.mem_map.mpr ⟨_, hir, rfl⟩)
    rw [show r.reportedAt i = ir.diagnostics from Result.reportedAt_eq hn hg]
    exact Resolution.reported_of ho (by simp)
  | @refused j hf ho =>
    have hg : (i, j.diagnostics) ∈ r.groups :=
      List.mem_append_right _ (List.mem_map.mpr ⟨_, hf, rfl⟩)
    rw [show r.reportedAt i = j.diagnostics from Result.reportedAt_eq hn hg]
    rcases ho with ho | ho
    · exact Resolution.reported_of ho (by simp)
    · exact Resolution.reported_of ho (by simp)

/-- A result accounts for every intent of a document. -/
structure Accounts (c : Context) (now : DateTime) (d : Document) (r : Result) : Prop where
  indices_increasing : r.indices.Pairwise (· < ·)
  failed_increasing : r.failed.Pairwise (· < ·)
  disjoint : ∀ i ∈ r.indices, i ∉ r.failed
  covers : ∀ i, i ∈ r.indices ∨ i ∈ r.failed ↔ i < d.intents.length
  length_irs : r.irs.length = r.indices.length
  ok_iff : r.ok = true ↔ ∀ i < d.intents.length, i ∈ r.indices
  /-- What is recorded for a position is that of its one envelope or failure. -/
  of_ir : ∀ i ir, (i, ir) ∈ r.placed → r.reportedAt i = ir.diagnostics
  of_failure : ∀ f ∈ r.failures, r.reportedAt f.index = f.diagnostics
  /-- Nothing is lost, listed twice or out of order. -/
  diagnostics_eq : r.diagnostics = (List.range d.intents.length).flatMap r.reportedAt
  /-- Each intent has its reports in the order in which they were found, with the entities that the
  envelopes before it leave. -/
  reported : ∀ i v, d.intents[i]? = some v →
    Reported (c.withKnown (knownBefore c.known r.placed i)) now (.plain v) (r.reportedAt i)

theorem accounts_of_runs {d : Document} (h : Runs now c 0 d.intents r) : Accounts c now d r := by
  have hcovers := mem_indices_or_failed h
  have hn := nodup_groups h
  refine ⟨?_, ?_, fun i hi => not_mem_failed h hi, hcovers, ?_, ?_, ?_, ?_, ?_,
    fun i v hv => reported_reportedAt h hv⟩
  · exact indices_increasing h
  · exact List.pairwise_map.mpr (failures_increasing h)
  · exact (length_indices h).symm
  · rw [Result.ok, List.isEmpty_iff]
    constructor
    · intro hnone i hi
      exact ((hcovers i).mpr hi).resolve_right (by simp [Result.failed, hnone])
    · intro hall
      rw [List.eq_nil_iff_forall_not_mem]
      intro f hf
      have hfailed : f.index ∈ r.failed := List.mem_map.mpr ⟨f, hf, rfl⟩
      exact not_mem_failed h (hall _ ((hcovers _).mp (.inr hfailed))) hfailed
  · intro i ir hir
    exact Result.reportedAt_eq hn (List.mem_append_left _ (List.mem_map.mpr ⟨_, hir, rfl⟩))
  · intro f hf
    exact Result.reportedAt_eq hn (List.mem_append_right _ (List.mem_map.mpr ⟨_, hf, rfl⟩))
  · refine Result.diagnostics_eq_flatMap hn fun i => ?_
    rw [Result.map_fst_groups, map_fst_placed h, List.mem_append]
    exact hcovers i

/-- Every document that is resolved is accounted for: its envelopes and failures stand at rising
positions, each position has one of them, it is without failures just when every position has an
envelope, and its diagnostics are those of the positions one after another, each with what was
reported about its intent. -/
theorem accounts_of_resolve {settings : Except Settings.Fault Settings} {q : Request} {d : Document}
    (h : (resolve settings q now d).result = .ok r) :
    ∃ c, context settings q d = .ok c ∧ Accounts c now d r := by
  obtain ⟨c, hc, hr⟩ := resolve_eq_ok h
  exact ⟨c, hc, accounts_of_runs (runs_of_resolveFrom hr)⟩

/-- A document with a failure between two envelopes that warn of repeated fields. -/
def warning : Value := .obj [
  ("version", .str "0.1.0"),
  ("intents", .list [
    .obj [("kind", .str "remove_field"), ("entity", .str "User"), ("fields", .texts ["a", "a"])],
    .obj [("kind", .str "add_field"), ("entity", .str "Ghost"),
      ("fields", .list [.obj [("name", .str "x"), ("type", .str "int")]])],
    .obj [("kind", .str "remove_field"), ("entity", .str "User"), ("fields", .texts ["b", "b"])]])]

theorem accounts_of_resolve_warning :
    let q : Request :=
      { projectId := .str "project", intentId := .str "intent", known := .texts ["User"] }
    let now : DateTime := ⟨⟨2024, 1, 2⟩, 12, 0, 0, 0, none⟩
    ∃ d r c, ofValue warning = .ok d ∧ (resolve (.ok Context.plainSettings) q now d).result =
      .ok r ∧ r.indices = [0, 2] ∧ r.diagnostics.map (·.code) = ["IR040", "IR030", "IR040"] ∧
      context (.ok Context.plainSettings) q d = .ok c ∧ Accounts c now d r := by
  intro q now
  have accepted : ((ofValue warning).toOption.bind fun d =>
      (resolve (.ok Context.plainSettings) q now d).result.toOption).map
        (fun r => (r.indices, r.diagnostics.map (·.code))) =
        some ([0, 2], ["IR040", "IR030", "IR040"]) := by decide +kernel
  obtain ⟨r, hr, hshown⟩ := Option.map_eq_some_iff.mp accepted
  obtain ⟨d, hd, hresult⟩ := Option.bind_eq_some_iff.mp hr
  have hresolved := eq_ok_of_toOption hresult
  obtain ⟨hindices, hcodes⟩ := Prod.mk.inj hshown
  obtain ⟨c, hc, haccounts⟩ := accounts_of_resolve hresolved
  exact ⟨d, r, c, eq_ok_of_toOption hd, hresolved, hindices, hcodes, hc, haccounts⟩

end SchemaIntents.Document
