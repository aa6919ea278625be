import SchemaIntents.Document

/-! A document intent by intent: each one is resolved with the entities that the accepted ones
before it leave, and is recorded at its position. -/
namespace SchemaIntents.Document

/-- An intent is refused, with what was reported about it. -/
def Refused (c : Context) (now : DateTime) (v : Value) (j : Rejection) : Prop :=
  (Resolution.of c now (.plain v)).result = .error (.rejected j) ∨
    (Resolution.of c now (.plain v)).result = .error (.unsupported j)

/-- The run of a document from a position on. -/
inductive Runs (now : DateTime) : Context → Nat → List Value → Result → Prop
  | done (c : Context) (i : Nat) : Runs now c i [] {}
  | accepted {c : Context} {i : Nat} {v : Value} {vs : List Value} {r : Result} {ir : Ir.Part} :
      (Resolution.of c now (.plain v)).result = .ok ir →
      Runs now (c.withKnown (knownAfter c.known ir)) (i + 1) vs r →
      Runs now c i (v :: vs) (r.withIr i ir)
  | refused {c : Context} {i : Nat} {v : Value} {vs : List Value} {r : Result} {j : Rejection} :
      Refused c now v j →
      Runs now c (i + 1) vs r →
      Runs now c i (v :: vs) (r.withFailure ⟨i, v.get "kind", j.diagnostics⟩)

/-- A document that is resolved to its end has a run. -/
theorem runs_of_resolveFrom {c : Context} {now : DateTime} {i : Nat} {vs : List Value} {r : Result}
    (h : (resolveFrom c now i vs).result = .ok r) : Runs now c i vs r := by
  induction vs generalizing c i r with
  | nil =>
    obtain rfl := Except.ok.inj h
    exact .done c i
  | cons v vs ih =>
    have later : ∀ {c' : Context} {f : Result → Result},
        (((resolveFrom c' now (i + 1) vs).map fun l => l.map f).result = .ok r) →
        ∃ r', r = f r' ∧ Runs now c' (i + 1) vs r' := by
      intro c' f hf
      simp only [Run.map] at hf
      cases hl : (resolveFrom c' now (i + 1) vs).result with
      | error m => simp [hl, Except.map] at hf
      | ok r' =>
        rw [hl] at hf
        exact ⟨r', (Except.ok.inj hf).symm, ih hl⟩
    simp only [resolveFrom] at h
    cases ho : (Resolution.of c now (.plain v)).result with
    | ok ir =>
      simp only [ho] at h
      obtain ⟨r', rfl, hr⟩ := later h
      exact .accepted ho hr
    | error refusal =>
      cases refusal with
      | misused m => simp [ho] at h
      | rejected j =>
        simp only [ho] at h
        obtain ⟨r', rfl, hr⟩ := later h
        exact .refused (.inl ho) hr
      | unsupported j =>
        simp only [ho] at h
        obtain ⟨r', rfl, hr⟩ := later h
        exact .refused (.inr ho) hr

/-- What is resolved along a run is what the document is resolved to. -/
theorem resolveFrom_of_runs {c : Context} {now : DateTime} {i : Nat} {vs : List Value} {r : Result}
    (h : Runs now c i vs r) : (resolveFrom c now i vs).result = .ok r := by
  induction h with
  | done => rfl
  | accepted ho _ ih => simp [resolveFrom, ho, Run.map, Run.after, ih, Except.map]
  | refused ho _ ih =>
    rcases ho with ho | ho <;> simp [resolveFrom, ho, Run.map, Run.after, ih, Except.map]

/-- The entities that are known when the intent at a position is resolved: the given ones, changed
by the accepted envelopes before it. -/
def knownBefore (known : Option (List String)) (irs : List (Nat × Ir.Part)) (i : Nat) :
    Option (List String) :=
  (irs.filter fun e => e.1 < i).foldl (fun known e => knownAfter known e.2) known

/-- The part of a result that belongs to a position and to those after it. -/
def Result.since (r : Result) (i : Nat) : Result :=
  let kept := r.placed.filter (i ≤ ·.1)
  ⟨kept.map (·.2), r.failures.filter (i ≤ ·.index), kept.map (·.1)⟩

@[simp]
theorem Result.placed_since (r : Result) (i : Nat) :
    (r.since i).placed = r.placed.filter (i ≤ ·.1) :=
  (List.zip_of_prod rfl rfl).symm

theorem knownBefore_cons {known : Option (List String)} {irs : List (Nat × Ir.Part)} {ir : Ir.Part}
    {i j : Nat} (hj : i < j) :
    knownBefore known ((i, ir) :: irs) j = knownBefore (knownAfter known ir) irs j := by
  simp [knownBefore, hj]

/-- Among entries in the order of their positions, those up to a position are the ones before it and
then the one at it. -/
theorem filter_lt_succ {irs : List (Nat × Ir.Part)} (h : irs.Pairwise (·.1 < ·.1)) (i : Nat) :
    irs.filter (fun e => e.1 < i + 1) =
      irs.filter (fun e => e.1 < i) ++ irs.filter (fun e => e.1 = i) := by
  induction h with
  | nil => rfl
  | @cons e irs hlater _ ih =>
    rcases Nat.lt_or_ge e.1 i with he | he
    · have hsucc : e.1 < i + 1 := Nat.lt_succ_of_lt he
      have hne : e.1 ≠ i := Nat.ne_of_lt he
      simp only [List.filter_cons, decide_eq_true hsucc, decide_eq_true he, decide_eq_false hne,
        Bool.false_eq_true, if_true, if_false, ih, List.cons_append]
    · have none_before : irs.filter (fun e => e.1 < i) = [] := by
        rw [List.filter_eq_nil_iff]
        intro e' he'
        have := hlater e' he'
        simp only [decide_eq_true_eq]
        omega
      rw [none_before, List.nil_append] at ih
      have hlt : ¬ e.1 < i := Nat.not_lt.mpr he
      by_cases hi : e.1 = i
      · have hsucc : e.1 < i + 1 := by omega
        simp only [List.filter_cons, decide_eq_true hsucc, decide_eq_false hlt, decide_eq_true hi,
          Bool.false_eq_true, if_true, if_false, ih, none_before, List.nil_append]
      · have hsucc : ¬ e.1 < i + 1 := by omega
        simp only [List.filter_cons, decide_eq_false hsucc, decide_eq_false hlt, decide_eq_false hi,
          Bool.false_eq_true, if_false, ih, none_before, List.nil_append]

section Runs

variable {now : DateTime} {c : Context} {i : Nat} {vs : List Value} {r : Result}

/-- The positions that are recorded are those of the intents. -/
theorem bounds_of_recorded (h : Runs now c i vs r) {j : Nat}
    (hj : j ∈ r.placed.map (·.1) ∨ j ∈ r.failures.map (·.index)) : i ≤ j ∧ j < i + vs.length := by
  induction h with
  | done => simp at hj
  | accepted _ _ ih =>
    rw [Result.placed_withIr, List.map_cons, List.mem_cons, or_assoc] at hj
    rw [List.length_cons]
    rcases hj with rfl | hj
    · omega
    · have := ih hj
      omega
  | refused _ _ ih =>
    rw [Result.placed_withFailure, Result.withFailure, List.map_cons, List.mem_cons,
      or_left_comm] at hj
    rw [List.length_cons]
    rcases hj with rfl | hj
    · omega
    · have := ih hj
      omega

theorem le_of_mem_placed (h : Runs now c i vs r) {e : Nat × Ir.Part} (he : e ∈ r.placed) :
    i ≤ e.1 :=
  (bounds_of_recorded h (.inl (List.mem_map_of_mem he))).1

theorem lt_of_mem_placed (h : Runs now c i vs r) {e : Nat × Ir.Part} (he : e ∈ r.placed) :
    e.1 < i + vs.length :=
  (bounds_of_recorded h (.inl (List.mem_map_of_mem he))).2

theorem le_of_mem_failures (h : Runs now c i vs r) {f : Failure} (hf : f ∈ r.failures) :
    i ≤ f.index :=
  (bounds_of_recorded h (.inr (List.mem_map_of_mem hf))).1

/-- There are as many positions as envelopes. -/
theorem length_indices (h : Runs now c i vs r) : r.indices.length = r.irs.length := by
  induction h with
  | done => rfl
  | accepted _ _ ih => exact congrArg (· + 1) ih
  | refused _ _ ih => exact ih

theorem map_fst_placed (h : Runs now c i vs r) : r.placed.map (·.1) = r.indices :=
  List.map_fst_zip (Nat.le_of_eq (length_indices h))

theorem map_snd_placed (h : Runs now c i vs r) : r.placed.map (·.2) = r.irs :=
  List.map_snd_zip (Nat.le_of_eq (length_indices h).symm)

/-- No position has both an envelope and a failure. -/
theorem ne_of_mem_failures (h : Runs now c i vs r) {f : Failure} (hf : f ∈ r.failures)
    {e : Nat × Ir.Part} (he : e ∈ r.placed) : e.1 ≠ f.index := by
  induction h with
  | done => simp at hf
  | accepted _ hr ih =>
    rcases List.mem_cons.mp he with rfl | he
    · have := le_of_mem_failures hr hf
      exact Nat.ne_of_lt this
    · exact ih hf he
  | refused _ hr ih =>
    rcases List.mem_cons.mp hf with rfl | hf
    · have := le_of_mem_placed hr he
      exact Nat.ne_of_gt this
    · exact ih hf he

/-- Envelopes are recorded in the order of their positions. -/
theorem placed_increasing (h : Runs now c i vs r) : r.placed.Pairwise (·.1 < ·.1) := by
  induction h with
  | done => exact .nil
  | accepted _ hr ih => exact .cons (fun _ he => le_of_mem_placed hr he) ih
  | refused _ _ ih => exact ih

theorem indices_increasing (h : Runs now c i vs r) : r.indices.Pairwise (· < ·) := by
  rw [← map_fst_placed h]
  exact List.pairwise_map.mpr (placed_increasing h)

theorem knownBefore_first {known : Option (List String)} (h : Runs now c i vs r) :
    knownBefore known r.placed i = known := by
  have none_before : r.placed.filter (fun e => e.1 < i) = [] := by
    rw [List.filter_eq_nil_iff]
    intro e he
    have := le_of_mem_placed h he
    simpa using this
  simp [knownBefore, none_before]

theorem since_first (h : Runs now c i vs r) : r.since i = r := by
  have hplaced : r.placed.filter (i ≤ ·.1) = r.placed :=
    List.filter_eq_self.mpr fun e he => by simpa using le_of_mem_placed h he
  have hfailures : r.failures.filter (i ≤ ·.index) = r.failures :=
    List.filter_eq_self.mpr fun f hf => by simpa using le_of_mem_failures h hf
  simp only [Result.since, hplaced, hfailures, map_snd_placed h, map_fst_placed h]

/-- From a position on a document is resolved as the rest of its intents with the entities that are
known there. -/
theorem Runs.drop (h : Runs now c i vs r) {k : Nat} (hk : k ≤ vs.length) :
    Runs now (c.withKnown (knownBefore c.known r.placed (i + k))) (i + k) (vs.drop k)
      (r.since (i + k)) := by
  induction h generalizing k with
  | done c i =>
    obtain rfl : k = 0 := by simpa using hk
    exact .done _ _
  | @accepted c i v vs r ir hv hr ih =>
    have hall : Runs now c i (v :: vs) (r.withIr i ir) := .accepted hv hr
    cases k with
    | zero =>
      rw [Nat.add_zero, knownBefore_first hall, since_first hall]
      exact hall
    | succ k =>
      have hpos : i + 1 + k = i + (k + 1) := by omega
      have hsince : (r.withIr i ir).since (i + (k + 1)) = r.since (i + (k + 1)) := by
        simp [Result.since, Result.withIr, Result.placed]
      have hlater := ih (k := k) (by simpa using hk)
      rw [hpos] at hlater
      rw [hsince, Result.placed_withIr, knownBefore_cons (by omega)]
      exact hlater
  | @refused c i v vs r j hv hr ih =>
    have hall : Runs now c i (v :: vs) (r.withFailure ⟨i, v.get "kind", j.diagnostics⟩) :=
      .refused hv hr
    cases k with
    | zero =>
      rw [Nat.add_zero, knownBefore_first hall, since_first hall]
      exact hall
    | succ k =>
      have hpos : i + 1 + k = i + (k + 1) := by omega
      have hsince : (r.withFailure ⟨i, v.get "kind", j.diagnostics⟩).since (i + (k + 1)) =
          r.since (i + (k + 1)) := by
        simp [Result.since, Result.withFailure, Result.placed]
      have hlater := ih (k := k) (by simpa using hk)
      rw [hpos] at hlater
      rw [hsince]
      exact hlater

end Runs

/-- What becomes of an intent that is resolved with some known entities, and which entities are
known after it. -/
inductive Outcome (c : Context) (now : DateTime) (r : Result) (i : Nat) (v : Value)
    (known later : Option (List String)) : Prop
  | accepted {ir : Ir.Part} : (i, ir) ∈ r.placed →
      (Resolution.of (c.withKnown known) now (.plain v)).result = .ok ir →
      later = knownAfter known ir → Outcome c now r i v known later
  | refused {j : Rejection} : ⟨i, v.get "kind", j.diagnostics⟩ ∈ r.failures →
      Refused (c.withKnown known) now v j → later = known → Outcome c now r i v known later

/-- Every intent of a document has an outcome. -/
theorem outcome_of_runs {c : Context} {now : DateTime} {i k : Nat} {vs : List Value} {r : Result}
    {v : Value} (h : Runs now c i vs r) (hv : vs[k]? = some v) :
    Outcome c now r (i + k) v (knownBefore c.known r.placed (i + k))
      (knownBefore c.known r.placed (i + k + 1)) := by
  obtain ⟨hk, rfl⟩ := List.getElem?_eq_some_iff.mp hv
  have hd := h.drop (Nat.le_of_lt hk)
  rw [List.drop_eq_getElem_cons hk] at hd
  have hnext : knownBefore c.known r.placed (i + k + 1) =
      ((r.since (i + k)).placed.filter fun e => e.1 = i + k).foldl
        (fun known e => knownAfter known e.2) (knownBefore c.known r.placed (i + k)) := by
    have hsame : (r.since (i + k)).placed.filter (fun e => e.1 = i + k) =
        r.placed.filter fun e => e.1 = i + k := by
      rw [Result.placed_since, List.filter_filter]
      refine List.filter_congr fun e _ => ?_
      by_cases he : e.1 = i + k <;> simp [he]
    rw [hsame, knownBefore, filter_lt_succ (placed_increasing h), List.foldl_append]
    rfl
  have none_later : ∀ {c' : Context} {r' : Result},
      Runs now c' (i + k + 1) (vs.drop (k + 1)) r' →
        r'.placed.filter (fun e => e.1 = i + k) = [] := by
    intro c' r' hr'
    rw [List.filter_eq_nil_iff]
    intro e he
    have := le_of_mem_placed hr' he
    simp only [decide_eq_true_eq]
    omega
  generalize hs : r.since (i + k) = s at hd hnext
  cases hd with
  | @accepted _ _ _ _ r' ir ho hr' =>
    have hm : (i + k, ir) ∈ (r.since (i + k)).placed := hs ▸ List.mem_cons_self
    rw [Result.placed_since] at hm
    refine .accepted (List.mem_filter.mp hm).1 ho ?_
    rw [hnext, Result.placed_withIr, List.filter_cons_of_pos (by simp), none_later hr']
    rfl
  | @refused _ _ _ _ r' j ho hr' =>
    have hm : ⟨i + k, vs[k].get "kind", j.diagnostics⟩ ∈ (r.since (i + k)).failures :=
      hs ▸ List.mem_cons_self
    refine .refused (List.mem_filter.mp hm).1 ho ?_
    rw [hnext, Result.placed_withFailure, none_later hr']
    rfl

end SchemaIntents.Document
