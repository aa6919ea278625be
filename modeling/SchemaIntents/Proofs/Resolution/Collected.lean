import SchemaIntents.Diagnostic.Collector
import SchemaIntents.Proofs.Draft.Explained
import SchemaIntents.Proofs.Resolution.Reports

/-! An envelope is one that nothing was held against. Whichever way an intent comes to its end, what
it comes with is all that was collected, and an error is among that just when there is no
envelope. -/
namespace SchemaIntents

open Intent (Kind Submission)

namespace Intent

theorem explained_read (name : Name) (s : Submission) : Explained (s.read name) := by
  have hschema : ∀ n, true = true → ∀ f ∈ (schema n).fields,
    f.shape.explains (fun _ => true) = true := by
    intro n _
    cases n <;> decide
  have hparse : ∀ v, Explained (parse name v) := fun v =>
    Shape.explained_checker hschema rfl v _
  cases s with
  | plain v => exact hparse v
  | checked p =>
    rw [Submission.read]
    split
    · exact explained_ok p
    · exact hparse (p.dump schema)

end Intent

namespace Draft

variable {k : Kind} {c : Context} {now : DateTime} {p : Intent.Part} {d : Draft}

theorem any_reportIssues {code opening : String} {issues : List Issue} (h : issues ≠ []) :
    (reportIssues code opening issues).any Diagnostic.isError = true := by
  obtain ⟨issue, rest, rfl⟩ := List.exists_cons_of_ne_nil h
  simp [reportIssues, Diagnostic.isError]

/-- A draft is settled just when no error was reported for it, and no error is reported for what is
settled. -/
theorem settle_ok_iff (hd : ofPart k c p = .ok d) (now : DateTime) :
    (∃ ir, d.settle c now = .ok ir) ↔
      (d.diagnostics ++ d.misfitReports c now).any Diagnostic.isError = false := by
  unfold settle misfitReports
  cases herr : d.diagnostics.any Diagnostic.isError with
  | true => simp [herr]
  | false =>
    have hexplained := explained_payload hd now
    cases hcheck : (d.payload c now).check Ir.schema (.model d.model) with
    | ok ir => simp [herr]
    | error issues =>
      have hissues : issues ≠ [] := by simpa [hcheck] using hexplained
      simp [herr, any_reportIssues hissues]

end Draft

namespace Collector

variable {collected : Collector}

theorem hasErrors_eq_true : collected.hasErrors = true ↔ ∃ d ∈ collected.entries,
    d.severity = .error := by
  simp [hasErrors, Diagnostic.isError]

theorem hasErrors_eq_false : collected.hasErrors = false ↔ ∀ d ∈ collected.entries,
    d.severity ≠ .error := by
  simp [hasErrors, Diagnostic.isError]

end Collector

namespace Rejection

theorem text_of_any {r : Rejection} (h : r.diagnostics.any Diagnostic.isError = true) :
    r.text = r.message ++ " (" ++ String.intercalate "; " (r.errors.map detail) ++ ")" := by
  have herrors : r.errors ≠ [] := by
    simpa [errors] using h
  rw [text]
  split
  · exact absurd ‹_› herrors
  · rfl

end Rejection

namespace Resolution

/-- What is collected while an intent is resolved as one of a kind: how it does not fit its model,
or what comes up while it is drafted, and after that how its envelope does not fit the schema. -/
def collected (k : Kind) (c : Context) (now : DateTime) (s : Submission) : Collector :=
  match s.read k.model with
  | .error issues => ⟨(Rejection.ofIssues (Intent.schema k.model).title issues).diagnostics⟩
  | .ok p =>
    match Draft.ofPart k c p with
    | .error _ => {}
    | .ok d => ⟨d.diagnostics ++ d.misfitReports c now⟩

/-- An envelope or a rejection comes with what was collected: an envelope where no error is among
that, a rejection where one is. -/
theorem result_cases (k : Kind) (c : Context) (now : DateTime) (s : Submission) :
    (∃ m, (ofKind k c now s).result = .error (.misused m)) ∨
      (∃ ir, (ofKind k c now s).result = .ok ir ∧ ir.diagnostics = (collected k c now s).entries ∧
        (collected k c now s).hasErrors = false) ∨
      ∃ r, (ofKind k c now s).result = .error (.rejected r) ∧
        r.diagnostics = (collected k c now s).entries ∧ (collected k c now s).hasErrors = true := by
  cases hp : s.read k.model with
  | error issues =>
    have hissues : issues ≠ [] := by simpa [hp] using Intent.explained_read k.model s
    have hcollected : collected k c now s =
        ⟨(Rejection.ofIssues (Intent.schema k.model).title issues).diagnostics⟩ := by
      simp only [collected, hp]
    rw [hcollected]
    exact .inr (.inr ⟨_, by simp only [ofKind, hp], rfl, Draft.any_reportIssues hissues⟩)
  | ok p =>
    cases hd : Draft.ofPart k c p with
    | error m => exact .inl ⟨m, by simp only [ofKind, hp, hd]⟩
    | ok d =>
      cases hm : d.misuse? with
      | some m => exact .inl ⟨m, ofKind_of_misuse hp hd hm⟩
      | none =>
        have hcollected : collected k c now s = ⟨d.diagnostics ++ d.misfitReports c now⟩ := by
          simp only [collected, hp, hd]
        have hreports : reports ((d.settle c now).mapError Refusal.rejected) = _ :=
          Draft.reports_settle hd
        have hok := Draft.settle_ok_iff hd now
        rw [hcollected, ofKind_of_ofPart hp hd hm]
        cases hs : d.settle c now with
        | ok ir =>
          rw [hs] at hreports hok
          exact .inr (.inl ⟨ir, rfl, hreports, hok.mp ⟨ir, rfl⟩⟩)
        | error r =>
          rw [hs] at hreports hok
          refine .inr (.inr ⟨r, rfl, hreports, ?_⟩)
          exact eq_true_of_ne_false fun hnone => by simpa using hok.mpr hnone

/-- Success means no errors. An envelope carries just what was collected on its way, in its order,
and no error is among that. A rejection carries it too, with at least one error, and its text lists
the errors and nothing else in their order. So an intent that is not misused comes to an envelope
just when no error was collected. -/
theorem result_collected (k : Kind) (c : Context) (now : DateTime) (s : Submission) :
    (∀ ir, (ofKind k c now s).result = .ok ir →
      ir.diagnostics = (collected k c now s).entries ∧ ∀ d ∈ ir.diagnostics, d.severity ≠ .error) ∧
    (∀ r, (ofKind k c now s).result = .error (.rejected r) →
      r.diagnostics = (collected k c now s).entries ∧ (∃ d ∈ r.diagnostics, d.severity = .error) ∧
      r.text = r.message ++ " (" ++ String.intercalate "; "
        (((collected k c now s).entries.filter fun d => d.severity = .error).map
          Rejection.detail) ++ ")") ∧
    (∀ r, (ofKind k c now s).result ≠ .error (.unsupported r)) ∧
    ((∃ ir, (ofKind k c now s).result = .ok ir) ↔ (collected k c now s).hasErrors = false ∧
      ∀ m, (ofKind k c now s).result ≠ .error (.misused m)) := by
  rcases result_cases k c now s with ⟨m, hm⟩ | ⟨ir, hir, hsame, hnone⟩ | ⟨r, hr, hsame, hsome⟩
  · simp [hm]
  · have hfree : ∀ d ∈ ir.diagnostics, d.severity ≠ .error :=
      hsame ▸ Collector.hasErrors_eq_false.mp hnone
    simpa [hir, hnone] using ⟨hsame, hfree⟩
  · have herror : ∃ d ∈ r.diagnostics, d.severity = .error :=
      hsame ▸ Collector.hasErrors_eq_true.mp hsome
    have htext := Rejection.text_of_any (r := r) (by rw [hsame]; exact hsome)
    rw [Rejection.errors, hsame] at htext
    simpa [hr, hsome] using ⟨hsame, herror, htext⟩

theorem result_collected_cascade :
    let c : Context := ⟨"intent", "project", "0.1.0", none, none, ⟨true, .snake⟩⟩
    let now : DateTime := ⟨⟨2024, 1, 2⟩, 12, 0, 0, 0, none⟩
    let s : Submission := .plain (.obj [("kind", .str "remove_entity"), ("scope", .str "data"),
      ("entity", .str "User"), ("cascade", .bool true)])
    (∃ ir, (ofKind .removeEntity c now s).result = .ok ir ∧ ir.diagnostics.map (·.code) =
      ["IR041"]) ∧
      ∃ r, (ofKind .removeEntity (c.withKnown (some ["Team"])) now s).result =
        .error (.rejected r) ∧ r.diagnostics.map (·.code) = ["IR030", "IR041"] ∧ r.text =
          "RemoveEntity transformation failed (IR030 at $.entity: Entity 'User' does not exist)" := by
  intro c now s
  have made : (ofKind .removeEntity c now s).result.isOk = true := by decide +kernel
  obtain ⟨ir, hir⟩ := exists_eq_ok made
  obtain ⟨r, hr, hmessage⟩ : ∃ r, (ofKind .removeEntity
      (c.withKnown (some ["Team"])) now s).result =
      .error (.rejected r) ∧ r.message = "RemoveEntity transformation failed" := ⟨_, rfl, rfl⟩
  refine ⟨⟨ir, hir, ?_⟩, r, hr, ?_, ?_⟩
  · rw [((result_collected .removeEntity c now s).1 ir hir).1]
    decide +kernel
  · rw [((result_collected .removeEntity _ now s).2.1 r hr).1]
    decide +kernel
  · rw [((result_collected .removeEntity _ now s).2.1 r hr).2.2, hmessage]
    decide +kernel

end Resolution
end SchemaIntents
