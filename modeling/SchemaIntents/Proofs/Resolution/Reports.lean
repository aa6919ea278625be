import SchemaIntents.Proofs.Resolution.Misfits

/-! What is reported about an intent, in the order in which it is found. An envelope reports what
its draft did, nothing more and nothing less. -/
namespace SchemaIntents

open Intent (Kind Submission)

namespace Draft

variable {k : Kind} {c : Context} {now : DateTime} {p : Intent.Part} {d : Draft}

/-- The reports that the envelope of a draft does not fit the schema. A draft with errors is not
checked. -/
def misfitReports (d : Draft) (c : Context) (now : DateTime) : List Diagnostic :=
  if d.diagnostics.any Diagnostic.isError then []
  else
    match (d.payload c now).check Ir.schema (.model d.model) with
    | .ok _ => []
    | .error issues => reportIssues "IR099" "IR validation failed: " issues

/-- What is settled comes with what was reported while it was drafted, and then with what does not
fit. -/
theorem reports_settle (hd : ofPart k c p = .ok d) :
    Resolution.reports ((d.settle c now).mapError Refusal.rejected) =
      d.diagnostics ++ d.misfitReports c now := by
  cases hs : d.settle c now with
  | ok ir =>
    obtain ⟨herr, hpayload⟩ := settle_eq_ok hs
    have hfits : d.misfitReports c now = [] := by
      rw [misfitReports, if_neg (by simp [herr]), Value.check_eq_checker, hpayload]
    rw [hfits, List.append_nil]
    exact diagnostics_of_settle (draft_kind hd).1 (keys_body hd) hs
  | error r =>
    simp only [Except.mapError, Resolution.reports]
    unfold settle at hs
    split at hs
    case isTrue herr =>
      obtain rfl := Except.error.inj hs
      simp [reject, misfitReports, herr]
    case isFalse herr =>
      cases hcheck : (d.payload c now).check Ir.schema (.model d.model) with
      | ok ir => simp [hcheck] at hs
      | error issues =>
        simp only [hcheck] at hs
        obtain rfl := Except.error.inj hs
        simp only [reject, misfitReports, if_neg herr, hcheck]

end Draft

namespace Resolution

variable {c : Context} {now : DateTime} {s : Submission}

/-- The reports about an intent: that there is no such kind, or how it does not fit its model, or
what is found while it is drafted and after that how its envelope does not fit. -/
inductive Reported (c : Context) (now : DateTime) (s : Submission) : List Diagnostic → Prop
  | unknown {stated : Value} : kind? s = none → s.statedKind.forDisplay = .ok stated →
      Reported c now s (Rejection.ofKind stated).diagnostics
  | unfit {k : Kind} {issues : List Issue} : kind? s = some k → s.read k.model = .error issues →
      Reported c now s (Rejection.ofIssues (Intent.schema k.model).title issues).diagnostics
  | drafted {k : Kind} {p : Intent.Part} {d : Draft} : kind? s = some k → s.read k.model = .ok p →
      Draft.ofPart k c p = .ok d → Reported c now s (d.diagnostics ++ d.misfitReports c now)

/-- Whatever an intent comes to, its reports come with it in their order. -/
theorem reported_of {x : Resolution} (hx : (Resolution.of c now s).result = x)
    (h : ∀ m, x ≠ .error (.misused m)) : Reported c now s x.reports := by
  subst hx
  unfold Resolution.of at h ⊢
  cases hk : kind? s with
  | none =>
    cases hstated : s.statedKind.forDisplay with
    | error m => simp [hk, hstated] at h
    | ok stated => exact .unknown hk hstated
  | some k =>
    simp only [hk, Run.after] at h ⊢
    cases hp : s.read k.model with
    | error issues =>
      simp only [ofKind, hp]
      exact .unfit hk hp
    | ok p =>
      cases hd : Draft.ofPart k c p with
      | error m => simp [ofKind, hp, hd] at h
      | ok d =>
        cases hm : d.misuse? with
        | some m => simp [ofKind, hp, hd, hm] at h
        | none =>
          rw [ofKind_of_ofPart hp hd hm, Draft.reports_settle hd]
          exact .drafted hk hp hd

end Resolution
end SchemaIntents
