import SchemaIntents.Proofs.Context.Tracking
import SchemaIntents.Proofs.Document.Known
import SchemaIntents.Proofs.Resolution.Tracking

/-! Known entities only filter. What a document comes to with some known entities, it also comes to
where every entity may exist, but for the warnings that entities are missing. -/
namespace SchemaIntents.Document

variable {now now' : DateTime}

/-- Along with a run with known entities goes one where every entity may exist. All that the first
accepts, the second accepts with the same content. -/
theorem Runs.untracked (ht : now.IsValid) (ht' : now'.IsValid) {c : Context} {i : Nat}
    {vs : List Value} {r : Result} (h : Runs now c i vs r) :
    ∃ r', Runs now' (c.withKnown none) i vs r' ∧ ∀ j ir, (j, ir) ∈ r.placed →
      ∃ ir', (j, ir') ∈ r'.placed ∧ ir'.content = ir.content ∧
        ir'.diagnostics = ir.diagnostics.filter (!·.warnsOfMissing) := by
  induction h with
  | done c i => exact ⟨{}, .done _ _, by simp⟩
  | @accepted c i v vs r ir ho _ ih =>
    obtain ⟨r', hr', hall⟩ := ih
    obtain ⟨ir', ho', hsame⟩ := Resolution.of_untracked ht ht' ho
    refine ⟨r'.withIr i ir', .accepted ho' hr', fun j jr hj => ?_⟩
    rcases List.mem_cons.mp hj with hj | hj
    · obtain ⟨rfl, rfl⟩ := Prod.mk.inj hj
      exact ⟨ir', List.mem_cons_self, hsame⟩
    · obtain ⟨jr', hj', hjsame⟩ := hall j jr hj
      exact ⟨jr', List.mem_cons_of_mem _ hj', hjsame⟩
  | @refused c i v vs r j ho _ ih =>
    obtain ⟨r', hr', hall⟩ := ih
    cases ho' : (Resolution.of (c.withKnown none) now' (.plain v)).result with
    | ok ir' =>
      refine ⟨r'.withIr i ir', .accepted ho' hr', fun k kr hk => ?_⟩
      obtain ⟨kr', hk', hksame⟩ := hall k kr hk
      exact ⟨kr', List.mem_cons_of_mem _ hk', hksame⟩
    | error refusal =>
      cases refusal with
      | rejected j' => exact ⟨_, .refused (.inl ho') hr', hall⟩
      | unsupported j' => exact ⟨_, .refused (.inr ho') hr', hall⟩
      | misused m =>
        obtain ⟨m', hm⟩ := Resolution.misused_of_untracked now ho'
        rcases ho with ho | ho
        · exact absurd (ho.symm.trans hm) (by simp)
        · exact absurd (ho.symm.trans hm) (by simp)

/-- A document is resolved in its context. -/
theorem resolve_of_runs {settings : Except Settings.Fault Settings} {q : Request} {d : Document}
    {c : Context} {r : Result} (hc : context settings q d = .ok c) (h : Runs now c 0 d.intents r) :
    (resolve settings q now d).result = .ok r := by
  simp [resolve, hc, resolveIn, Run.map, resolveFrom_of_runs h]

/-- A document that is resolved with some known entities is resolved where every entity may exist.
What was accepted at a position is accepted there again, with the same content and the same reports
but for the warnings that entities are missing. -/
theorem resolve_untracked {settings : Except Settings.Fault Settings} {q : Request} {d : Document}
    {r : Result} (ht : now.IsValid) (ht' : now'.IsValid)
    (h : (resolve settings q now d).result = .ok r) :
    ∃ r', (resolve settings { q with known := .null } now' d).result = .ok r' ∧
      ∀ i ir, (i, ir) ∈ r.placed → ∃ ir', (i, ir') ∈ r'.placed ∧ ir'.content = ir.content ∧
        ir'.diagnostics = ir.diagnostics.filter (!·.warnsOfMissing) := by
  obtain ⟨c, hc, hr⟩ := resolve_eq_ok h
  obtain ⟨r', hr', hall⟩ := (runs_of_resolveFrom hr).untracked ht ht'
  exact ⟨r', resolve_of_runs (context_untracked hc) hr', hall⟩

/-- A document that speaks of an entity which is not known: once it may, and once it may not. -/
def unknown : Value := .obj [
  ("version", .str "0.1.0"),
  ("intents", .list [
    .obj [("kind", .str "add_component"), ("scope", .str "ui"), ("component", .str "OrderTable"),
      ("template", .str "List"), ("entity", .str "Order")],
    .obj [("kind", .str "remove_entity"), ("scope", .str "data"), ("entity", .str "Order")]])]

theorem resolve_untracked_unknown :
    let q : Request :=
      { projectId := .str "project", intentId := .str "intent", known := .texts ["User"] }
    let now : DateTime := ⟨⟨2024, 1, 2⟩, 12, 0, 0, 0, none⟩
    let now' : DateTime := ⟨⟨2024, 1, 3⟩, 12, 0, 0, 0, none⟩
    ∃ d r r', ofValue unknown = .ok d ∧
      (resolve (.ok Context.plainSettings) q now d).result = .ok r ∧
      r.placed.map (fun e => (e.1, e.2.diagnostics)) = [(0, [⟨"IR030", .warning,
        "Entity 'Order' does not exist", "$.entity"⟩])] ∧
      (resolve (.ok Context.plainSettings) { q with known := .null } now' d).result = .ok r' ∧
      ∃ ir', (0, ir') ∈ r'.placed ∧ ir'.diagnostics = [] := by
  intro q now now'
  have ht : now.IsValid := by decide
  have ht' : now'.IsValid := by decide
  have tracked : ((ofValue unknown).toOption.bind fun d =>
      (resolve (.ok Context.plainSettings) q now d).result.toOption).map
        (fun r => r.placed.map fun e => (e.1, e.2.diagnostics)) =
      some [(0, [⟨"IR030", .warning, "Entity 'Order' does not exist", "$.entity"⟩])] := by
    decide +kernel
  obtain ⟨r, hr, hwarned⟩ := Option.map_eq_some_iff.mp tracked
  obtain ⟨d, hd, hresult⟩ := Option.bind_eq_some_iff.mp hr
  have hresolved := eq_ok_of_toOption hresult
  obtain ⟨r', hr', hall⟩ := resolve_untracked ht ht' hresolved
  have hmem : (0, [⟨"IR030", .warning, "Entity 'Order' does not exist", "$.entity"⟩]) ∈
      r.placed.map fun e => (e.1, e.2.diagnostics) := by
    rw [hwarned]
    exact List.mem_cons_self
  obtain ⟨⟨i, ir⟩, hir, heq⟩ := List.mem_map.mp hmem
  obtain ⟨hi, hreports⟩ := Prod.mk.inj heq
  obtain ⟨ir', hir', -, hdiagnostics⟩ := hall 0 ir (hi ▸ hir)
  refine ⟨d, r, r', eq_ok_of_toOption hd, hresolved, hwarned, hr', ir', hir', ?_⟩
  rw [hdiagnostics, hreports]
  rfl

end SchemaIntents.Document
