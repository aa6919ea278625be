import SchemaIntents.Proofs.Document.Runs
import SchemaIntents.Proofs.Resolution.Misuse

/-! Documents that are not resolved to their end: the first intent in which something cannot be used
takes all others with it. -/
namespace SchemaIntents.Document

open Resolution (Unusable)

/-- What keeps an intent from an envelope and from a refusal is that it is misused. -/
theorem result_ok_or_refused_or_misused (c : Context) (now : DateTime) (v : Value) :
    (∃ ir, (Resolution.of c now (.plain v)).result = .ok ir) ∨ (∃ j, Refused c now v j) ∨
      ∃ m, (Resolution.of c now (.plain v)).result = .error (.misused m) := by
  unfold Refused
  cases (Resolution.of c now (.plain v)).result with
  | ok ir => exact .inl ⟨ir, rfl⟩
  | error refusal =>
    cases refusal with
    | rejected j => exact .inr (.inl ⟨j, .inl rfl⟩)
    | unsupported j => exact .inr (.inl ⟨j, .inr rfl⟩)
    | misused m => exact .inr (.inr ⟨m, rfl⟩)

theorem result_ok_or_refused (c : Context) (now : DateTime) {v : Value} :
    ((∃ ir, (Resolution.of c now (.plain v)).result = .ok ir) ∨ ∃ j, Refused c now v j) ↔
      ∀ m, ¬ Unusable c (.plain v) m := by
  rw [← not_exists, ← Resolution.exists_misused_of_iff now]
  constructor
  · rintro (⟨ir, ho⟩ | ⟨j, ho | ho⟩) ⟨m, hm⟩ <;> cases ho.symm.trans hm
  · intro hnone
    exact (or_assoc.mpr (result_ok_or_refused_or_misused c now v)).resolve_right hnone

/-- A document breaks off with an intent that is misused after the envelopes before it, all of which
come to an envelope or are refused. -/
theorem resolveFrom_eq_error {c : Context} {now : DateTime} {i : Nat}
    {vs : List Value} {m : Misuse} : (resolveFrom c now i vs).result = .error m ↔
      ∃ k v r, vs[k]? = some v ∧ Runs now c i (vs.take k) r ∧
        (Resolution.of (c.withKnown (knownBefore c.known r.placed (i + k))) now (.plain v)).result =
          .error (.misused m) := by
  induction vs generalizing c i with
  | nil => simp [resolveFrom]
  | cons v vs ih =>
    have later : ∀ {c' : Context} {f : Result → Result},
        ((resolveFrom c' now (i + 1) vs).map fun l => l.map f).result = .error m ↔
          (resolveFrom c' now (i + 1) vs).result = .error m := by
      intro c' f
      simp only [Run.map]
      cases (resolveFrom c' now (i + 1) vs).result <;> simp [Except.map]
    have hpos (k : Nat) : i + 1 + k = i + (k + 1) := by omega
    constructor
    · intro h
      rcases result_ok_or_refused_or_misused c now v with ⟨ir, ho⟩ | ⟨j, hj⟩ | ⟨m', ho⟩
      · simp only [resolveFrom, ho, Run.after, later] at h
        obtain ⟨k, u, r, hu, hr, hm⟩ := ih.mp h
        refine ⟨k + 1, u, r.withIr i ir, hu, .accepted ho hr, ?_⟩
        rw [Result.placed_withIr, knownBefore_cons (by omega), ← hpos k]
        exact hm
      · have h : (resolveFrom c now (i + 1) vs).result = .error m := by
          rcases hj with ho | ho <;> simpa only [resolveFrom, ho, Run.after, later] using h
        obtain ⟨k, u, r, hu, hr, hm⟩ := ih.mp h
        refine ⟨k + 1, u, r.withFailure _, hu, .refused hj hr, ?_⟩
        rw [Result.placed_withFailure, ← hpos k]
        exact hm
      · obtain rfl : m' = m := by simpa only [resolveFrom, ho, Except.error.injEq] using h
        exact ⟨0, v, {}, rfl, .done c i, ho⟩
    · rintro ⟨k, u, r, hu, hr, hm⟩
      cases k with
      | zero =>
        obtain rfl : v = u := by simpa using hu
        cases hr
        have ho : (Resolution.of c now (.plain v)).result = .error (.misused m) := hm
        simp only [resolveFrom, ho]
      | succ k =>
        rw [List.take_succ_cons] at hr
        cases hr with
        | accepted ho hr =>
          rw [Result.placed_withIr, knownBefore_cons (by omega), ← hpos k] at hm
          simp only [resolveFrom, ho, Run.after, later]
          exact ih.mpr ⟨k, u, _, hu, hr, hm⟩
        | refused hj hr =>
          rw [Result.placed_withFailure, ← hpos k] at hm
          have h := ih.mpr ⟨k, u, _, hu, hr, hm⟩
          rcases hj with ho | ho <;> simpa only [resolveFrom, ho, Run.after, later] using h

theorem resolveIn_eq_error {c : Context} {now : DateTime} {d : Document} {m : Misuse} :
    (resolveIn c now d).result = .error m ↔
      ∃ i v r, d.intents[i]? = some v ∧ Runs now c 0 (d.intents.take i) r ∧
        (Resolution.of (c.withKnown (knownBefore c.known r.placed i)) now (.plain v)).result =
          .error (.misused m) := by
  rw [show (resolveIn c now d).result = (resolveFrom c now 0 d.intents).result from rfl,
    resolveFrom_eq_error]
  simp only [Nat.zero_add]

/-- An intent comes to an envelope or is refused unless something in it cannot be used, or something
about it cannot be told; in an intent from JSON that is only a lone value in the place of strategies
or a half of a pair in what is reported. A document breaks off with the first such intent, and
without one every intent of it has an envelope or a failure. -/
theorem interrupted_iff (c : Context) (now : DateTime) :
    (∀ v, ((∃ ir, (Resolution.of c now (.plain v)).result = .ok ir) ∨ ∃ j, Refused c now v j) ↔
      ∀ m, ¬ Unusable c (.plain v) m) ∧
    (∀ v m, v.IsShort →
      (Unusable c (.plain v) m ↔ HasLoneStrategy v m ∨ (m = .torn ∧ HasTornReport c v))) ∧
    (∀ v m, (Resolution.of c now (.plain v)).result = .error (.misused m) →
      Unusable c (.plain v) m) ∧
    (∀ d m, (resolveIn c now d).result = .error m ↔
      ∃ i v r, d.intents[i]? = some v ∧ Runs now c 0 (d.intents.take i) r ∧
        (Resolution.of (c.withKnown (knownBefore c.known r.placed i)) now (.plain v)).result =
          .error (.misused m)) ∧
    ∀ d r, (resolveIn c now d).result = .ok r → ∀ i v, d.intents[i]? = some v →
      (∃ ir, (i, ir) ∈ r.placed) ∨ ∃ j : Rejection, ⟨i, v.get "kind", j.diagnostics⟩ ∈
        r.failures := by
  refine ⟨fun v => result_ok_or_refused c now, fun v m hv => unusable_iff_of_isShort hv,
    fun v m => Resolution.unusable_of_misused, fun d m =>
      resolveIn_eq_error, fun d r hr i v hv => ?_⟩
  have ho := outcome_of_runs (runs_of_resolveFrom hr) hv
  rw [Nat.zero_add] at ho
  cases ho with
  | accepted hir => exact .inl ⟨_, hir⟩
  | refused hf => exact .inr ⟨_, hf⟩

/-- An intent for an authentication with a number in the place of its strategies. -/
def lone : Value := .obj [
  ("kind", .str "add_capability"),
  ("scope", .str "capability"),
  ("capability", .str "auth"),
  ("framework", .str "express"),
  ("config", .obj [("strategies", .int 5)])]

theorem lone_isShort : lone.IsShort := by
  have hlong : Value.isLongNumber 5 = false := Value.isLongNumber_of_lt (by decide)
  exact Value.isShort_iff.mpr
    ⟨by simp [lone], by simp [lone, Value.hasLongNumber, Value.hasLongEntry, hlong], by decide⟩

/-- Such an intent keeps the one after it from being resolved. -/
theorem interrupted_lone :
    let c : Context := ⟨"intent", "project", "0.1.0", none, none, ⟨true, .snake⟩⟩
    let now : DateTime := ⟨⟨2024, 1, 2⟩, 12, 0, 0, 0, none⟩
    let next : Value := .obj [("kind", .str "remove_entity"), ("scope", .str "data"),
      ("entity", .str "User")]
    ∃ d, ofValue (.obj [("intents", .list [lone, next])]) = .ok d ∧ d.intents = [lone, next] ∧
      Unusable c (.plain lone) (.notIterable "int") ∧
      (resolveIn c now d).result = .error (.notIterable "int") := by
  intro c now next
  obtain ⟨-, hshort, -, hdocument, -⟩ := interrupted_iff c now
  have unusable : Unusable c (.plain lone) (.notIterable "int") :=
    (hshort lone _ lone_isShort).mpr (.inl
      ⟨_, .int 5, rfl, rfl, rfl, rfl, .inr (.inl ⟨5, by decide, rfl⟩), rfl⟩)
  exact ⟨_, rfl, rfl, unusable, (hdocument _ _).mpr ⟨0, lone, {}, rfl, .done c 0, rfl⟩⟩

end SchemaIntents.Document
