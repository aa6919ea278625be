import SchemaIntents.Proofs.Draft.Bodies
import SchemaIntents.Proofs.Draft.Reports
import SchemaIntents.Proofs.Resolution.Misuse

/-! Drafts without errors that do not fit the schema. Four kinds of intents never come to one, two
do just for an enumeration with halves of pairs in its texts, and three just when they take over a
text that is empty or has halves of pairs. -/
namespace SchemaIntents

open Draft (copied fieldLists)
open Intent (Accepted Kind)
open Resolved (HasTornType)
open Shape

variable {c : Context} {now : DateTime} {k : Kind} {p : Intent.Part} {d : Draft}

namespace Draft

/-- A draft that nothing is held against: whatever is to be told of it can be, and none of it is an
error. -/
def IsClean (d : Draft) : Prop :=
  d.misuse? = none ∧ d.diagnostics.any Diagnostic.isError = false

/-- What a draft finds in its body is all that its envelope finds. -/
theorem finds_of_bodyFinds {found : String → List Issue} (hc : c.IsValid) (ht : now.IsValid)
    (hk : k ≠ .addEntity) (hk' : k ≠ .addCapability) (hd : ofPart k c p = .ok d)
      (hclean : d.IsClean)
    (hcommon : ∀ key ∈ ["kind", "irVersion", "provenance", "diagnostics"], found key = [])
    (h : BodyFinds k d found) :
    Finds ((d.payload c now).checker Ir.schema levelLimit (.model d.model))
      ((ownFields k).flatMap fun f => (found f.wire).map (·.under (.key f.wire))) := by
  obtain ⟨hm, hkind⟩ := draft_kind hd
  exact finds_payload hm hkind hc ht (isOwn_diagnostics hk hk' hd) (misuse?_eq_none.mp hclean.1).2
    (keys_body hd) hcommon h

/-- What takes no texts over as they are fits. -/
theorem fits_payload (hc : c.IsValid) (ht : now.IsValid) (hp : Accepted k.model p)
    (hk : k ∈ [.addRelation, .removeEntity, .renameEntity, .renameField])
    (hd : ofPart k c p = .ok d) (hclean : d.IsClean) :
    Finds ((d.payload c now).checker Ir.schema levelLimit (.model d.model)) [] := by
  obtain ⟨hk, hk', hbody⟩ : k ≠ .addEntity ∧ k ≠ .addCapability ∧ BodyFinds k d fun _ => [] := by
    have herr := hclean.2
    simp only [List.mem_cons, List.not_mem_nil, or_false] at hk
    rcases hk with rfl | rfl | rfl | rfl <;> obtain rfl := Except.ok.inj hd
    · exact ⟨by decide, by decide, bodyFinds_addRelation hp herr⟩
    · exact ⟨by decide, by decide, bodyFinds_removeEntity hp⟩
    · exact ⟨by decide, by decide, bodyFinds_renameEntity hp⟩
    · exact ⟨by decide, by decide, bodyFinds_renameField hp⟩
  have hfinds := finds_of_bodyFinds hc ht hk hk' hd hclean (fun _ _ => rfl) hbody
  rwa [List.flatMap_eq_nil_iff.mpr fun _ _ => List.map_nil] at hfinds

/-- What has fields resolved fits if none of their types has halves of pairs. -/
theorem decides_payload_of_fields (hc : c.IsValid) (ht : now.IsValid) (hp : Accepted k.model p)
    (hk : k ∈ [.addField, .addEndpoint]) (hd : ofPart k c p = .ok d) (hclean : d.IsClean) :
    Decides ((d.payload c now).checker Ir.schema levelLimit (.model d.model))
      (∀ e ∈ fieldLists k p, ¬ HasTornType e.2.1 e.2.2) := by
  have herr := hclean.2
  simp only [List.mem_cons, List.not_mem_nil, or_false] at hk
  rcases hk with rfl | rfl
  · obtain rfl := Except.ok.inj hd
    obtain ⟨issues, hbody, hwhole⟩ := bodyFinds_addField hp herr
    have hfinds := finds_of_bodyFinds hc ht (by decide) (by decide) hd hclean
      (by simp) hbody
    refine ⟨_, hfinds, ?_⟩
    simpa [ownFields, envelopeModel, Ir.schema, Ir.addField, fieldLists, Intent.AddField.ofPart]
      using hwhole
  · obtain rfl := Except.ok.inj hd
    obtain ⟨issues, hbody, hwhole⟩ := bodyFinds_addEndpoint hp herr
    have hfinds := finds_of_bodyFinds hc ht (by decide) (by decide) hd hclean
      (by simp) hbody
    refine ⟨_, hfinds, ?_⟩
    simpa [ownFields, envelopeModel, Ir.schema, Ir.addEndpoint, fieldLists,
      Intent.AddEndpoint.ofPart] using hwhole

/-- What takes texts over as they are finds what is wrong with these, and nothing else. -/
theorem finds_copied (hc : c.IsValid) (ht : now.IsValid) (hp : Accepted k.model p)
    (hk : k ∈ [.removeField, .updateEndpoint, .addComponent]) (hd : ofPart k c p = .ok d)
    (hclean : d.IsClean) :
    Finds ((d.payload c now).checker Ir.schema levelLimit (.model d.model))
      (textIssues (copied k p)) := by
  obtain ⟨hk, hk', hown, hcommon, hbody⟩ : k ≠ .addEntity ∧ k ≠ .addCapability ∧
      (ownFields k).flatMap (fun f => (gaps k p f.wire).map (·.under (.key f.wire))) =
        textIssues (copied k p) ∧
      (∀ key ∈ ["kind", "irVersion", "provenance", "diagnostics"], gaps k p key = []) ∧
      BodyFinds k d (gaps k p) := by
    simp only [List.mem_cons, List.not_mem_nil, or_false] at hk
    rcases hk with rfl | rfl | rfl <;> obtain rfl := Except.ok.inj hd
    · exact ⟨by decide, by decide,
        by simp [copied, gaps, copiedKey, ownFields, envelopeModel, Ir.schema, Ir.removeField],
        by simp [gaps, copiedKey], bodyFinds_removeField hp⟩
    · exact ⟨by decide, by decide,
        by simp [copied, gaps, copiedKey, ownFields, envelopeModel, Ir.schema, Ir.updateEndpoint],
        by simp [gaps, copiedKey], bodyFinds_updateEndpoint hp⟩
    · exact ⟨by decide, by decide,
        by simp [copied, gaps, copiedKey, ownFields, envelopeModel, Ir.schema, Ir.addComponent],
        by simp [gaps, copiedKey], bodyFinds_addComponent hp⟩
  exact hown ▸ finds_of_bodyFinds hc ht hk hk' hd hclean hcommon hbody

/-- A draft without errors comes to an envelope, or all that is found in its payload is reported. -/
theorem settle_of_finds {issues : List Issue}
    (herr : d.diagnostics.any Diagnostic.isError = false)
    (h : Finds ((d.payload c now).checker Ir.schema levelLimit (.model d.model)) issues) :
    (issues = [] ∧ ∃ ir, d.settle c now = .ok ir) ∨
      (issues ≠ [] ∧ d.settle c now = .error (d.reject
        (d.diagnostics ++ reportIssues "IR099" "IR validation failed: " issues))) := by
  rw [settle, if_neg (by simp [herr]), Value.check_eq_checker]
  rcases h.ok_or_error with ⟨ir, hir, hnil⟩ | ⟨hissues, hne⟩
  · exact .inl ⟨hnil, ir, by rw [hir]⟩
  · exact .inr ⟨hne, by rw [hissues]⟩

end Draft

namespace Resolution

/-- What is reported with an envelope or a rejection. -/
def reports : Resolution → List Diagnostic
  | .ok ir => ir.diagnostics
  | .error (.rejected r) => r.diagnostics
  | .error (.unsupported r) => r.diagnostics
  | .error (.misused _) => []

/-- The reports that an envelope does not fit the schema. -/
def misfits (r : Resolution) : List Diagnostic :=
  (reports r).filter (·.code = "IR099")

/-- The report about a text at a place of an envelope, if it is empty or has halves of pairs. -/
def textReport? (e : Location × String) : Option Diagnostic :=
  (textFault? 1 none none e.2).map fun cause =>
    ⟨"IR099", .error, "IR validation failed: " ++ cause.message, Location.path e.1⟩

theorem misfits_eq_nil {ds : List Diagnostic} (h : ∀ d ∈ ds, d.IsOwn) :
    ds.filter (·.code = "IR099") = [] := by
  simp only [List.filter_eq_nil_iff, decide_eq_true_eq]
  exact fun d hd => (h d hd).2.1

theorem reportIssues_textIssues (ts : List (Location × String)) :
    Draft.reportIssues "IR099" "IR validation failed: " (textIssues ts) =
      ts.filterMap textReport? := by
  rw [Draft.reportIssues, textIssues, List.map_flatMap, List.filterMap_eq_flatMap_toList]
  refine congrArg (List.flatMap · ts) (funext fun e => ?_)
  rw [textReport?]
  cases textFault? 1 none none e.2 <;> rfl

theorem misfits_reportIssues {code : String} (hcode : code ≠ "IR099") (opening : String)
    (issues : List Issue) :
    (Draft.reportIssues code opening issues).filter (·.code = "IR099") = [] := by
  simp [Draft.reportIssues, List.filter_eq_nil_iff, hcode]

/-- An intent that does not fit its own model is not said to give an envelope that does not fit. -/
theorem misfits_of_parse_error {v : Value} {issues : List Issue}
    (h : Intent.parse k.model v = .error issues) :
    misfits (ofKind k c now (.plain v)).result = [] := by
  have hresult : (ofKind k c now (.plain v)).result =
      .error (.rejected (.ofIssues (Intent.schema k.model).title issues)) := by
    rw [ofKind, show Intent.Submission.read k.model (.plain v) = .error issues from h]
  rw [hresult]
  exact misfits_reportIssues (by decide) _ _

/-- What is accepted with errors or cannot be told has no envelope to speak of. -/
theorem misfits_of_not_isClean (hk : k ≠ .addEntity) (hk' : k ≠ .addCapability) {v : Value}
    (hp : Intent.parse k.model v = .ok p) (hd : Draft.ofPart k c p = .ok d) (h : ¬ d.IsClean) :
    misfits (ofKind k c now (.plain v)).result = [] := by
  have hread : Intent.Submission.read k.model (.plain v) = .ok p := hp
  cases hm : d.misuse? with
  | some m =>
    rw [ofKind_of_misuse hread hd hm]
    rfl
  | none =>
    have herr : d.diagnostics.any Diagnostic.isError = true := by
      by_contra hno
      exact h ⟨hm, by simpa using hno⟩
    rw [ofKind_of_ofPart hread hd hm, Draft.settle, if_pos herr]
    exact misfits_eq_nil (Draft.isOwn_diagnostics hk hk' hd)

/-- Of a draft that nothing is held against, all that its envelope finds is reported. -/
theorem misfits_of_finds {issues : List Issue} (hk : k ≠ .addEntity) (hk' : k ≠ .addCapability)
    {v : Value} (hp : Intent.parse k.model v = .ok p) (hd : Draft.ofPart k c p = .ok d)
    (hclean : d.IsClean)
    (h : Finds ((d.payload c now).checker Ir.schema levelLimit (.model d.model)) issues) :
    misfits (ofKind k c now (.plain v)).result =
      Draft.reportIssues "IR099" "IR validation failed: " issues := by
  have hown := misfits_eq_nil (Draft.isOwn_diagnostics hk hk' hd)
  have hread : Intent.Submission.read k.model (.plain v) = .ok p := hp
  rw [ofKind_of_ofPart hread hd hclean.1]
  rcases Draft.settle_of_finds hclean.2 h with ⟨rfl, ir, hir⟩ | ⟨-, hrejected⟩
  · have hir' := Draft.diagnostics_of_settle (draft_kind hd).1 (Draft.keys_body hd) hir
    simp only [hir, Except.mapError, misfits, reports, hir', hown]
    rfl
  · simp only [hrejected, Except.mapError, misfits, reports, Draft.reject, List.filter_append, hown]
    exact List.filter_eq_self.mpr (by simp [Draft.reportIssues])

theorem exists_ofPart (hk : k ≠ .addCapability) : ∃ d, Draft.ofPart k c p = .ok d := by
  cases k with
  | addCapability => exact absurd rfl hk
  | _ => exact ⟨_, rfl⟩

/-- Where it is known when envelopes fit, it is known when they are said not to. -/
theorem misfits_ne_nil_iff {q : Intent.Part → Prop} (hk : k ≠ .addEntity) (hk' : k ≠ .addCapability)
    (h : ∀ p d, Accepted k.model p → Draft.ofPart k c p = .ok d → d.IsClean →
      Decides ((d.payload c now).checker Ir.schema levelLimit (.model d.model)) (¬ q p))
    (v : Value) :
    misfits (ofKind k c now (.plain v)).result ≠ [] ↔
      ∃ p d, Intent.parse k.model v = .ok p ∧ Draft.ofPart k c p = .ok d ∧ d.IsClean ∧ q p := by
  constructor
  · intro hne
    cases hp : Intent.parse k.model v with
    | error issues => exact absurd (misfits_of_parse_error hp) hne
    | ok p =>
      obtain ⟨d, hd⟩ := exists_ofPart (c := c) (p := p) hk'
      by_cases hclean : d.IsClean
      · obtain ⟨issues, hfound, hfits⟩ := h p d (Intent.accepted_of_parse hp) hd hclean
        rw [misfits_of_finds hk hk' hp hd hclean hfound] at hne
        refine ⟨p, d, rfl, hd, hclean, not_not.mp fun hno => hne ?_⟩
        rw [hfits.mpr hno]
        rfl
      · exact absurd (misfits_of_not_isClean hk hk' hp hd hclean) hne
  · rintro ⟨p, d, hp, hd, hclean, hq⟩
    obtain ⟨issues, hfound, hfits⟩ := h p d (Intent.accepted_of_parse hp) hd hclean
    rw [misfits_of_finds hk hk' hp hd hclean hfound]
    simpa [Draft.reportIssues] using mt hfits.mp (not_not.mpr hq)

/-- An intent for a relation, an entity that goes or a new name is never said to give an envelope
that does not fit: if nothing is held against it, its envelope fits. An intent for new fields or a
new endpoint is said to do so just when nothing else is held against it and a type that is resolved
for it has a half of a pair in the name or in a value of an enumeration. An intent for fields that
go, for changes of an endpoint or for a component is said to do so just when nothing else is held
against it and a text that it copies is empty or has a half of a pair, once for each such text, at
its place. -/
theorem misfits_eq_textReports (hc : c.IsValid) (ht : now.IsValid) :
    (∀ k ∈ [Kind.addRelation, .removeEntity, .renameEntity, .renameField], ∀ v,
      misfits (ofKind k c now (.plain v)).result = [] ∧
      ∀ p d, Intent.parse k.model v = .ok p → Draft.ofPart k c p = .ok d → d.IsClean →
        ∃ ir, (d.payload c now).check Ir.schema (.model d.model) = .ok ir) ∧
    (∀ k ∈ [Kind.addField, .addEndpoint], ∀ v,
      (∀ p d, Intent.parse k.model v = .ok p → Draft.ofPart k c p = .ok d → d.IsClean →
        ((∃ ir, (d.payload c now).check Ir.schema (.model d.model) = .ok ir) ↔
          ∀ e ∈ fieldLists k p, ¬ HasTornType e.2.1 e.2.2)) ∧
      (misfits (ofKind k c now (.plain v)).result ≠ [] ↔
        ∃ p d, Intent.parse k.model v = .ok p ∧ Draft.ofPart k c p = .ok d ∧ d.IsClean ∧
          ∃ e ∈ fieldLists k p, HasTornType e.2.1 e.2.2)) ∧
    ∀ k ∈ [Kind.removeField, .updateEndpoint, .addComponent], ∀ v,
      (∀ issues, Intent.parse k.model v = .error issues →
        misfits (ofKind k c now (.plain v)).result = []) ∧
      (∀ p d, Intent.parse k.model v = .ok p → Draft.ofPart k c p = .ok d →
        (d.IsClean → misfits (ofKind k c now (.plain v)).result =
          (copied k p).filterMap textReport?) ∧
        (¬ d.IsClean → misfits (ofKind k c now (.plain v)).result = [])) ∧
      (misfits (ofKind k c now (.plain v)).result ≠ [] ↔
        ∃ p d, Intent.parse k.model v = .ok p ∧ Draft.ofPart k c p = .ok d ∧ d.IsClean ∧
          ∃ e ∈ copied k p, ¬ Text.IsProper e.2) := by
  refine ⟨fun k hmem v => ?_, fun k hmem v => ?_, fun k hmem v => ?_⟩
  · obtain ⟨hk, hk'⟩ : k ≠ .addEntity ∧ k ≠ .addCapability := by
      constructor <;> rintro rfl <;> simp at hmem
    have hfits := fun p d (hp : Intent.parse k.model v = .ok p) hd hclean =>
      Draft.fits_payload hc ht (Intent.accepted_of_parse hp) hmem (d := d) hd hclean
    refine ⟨?_, fun p d hp hd hclean => hfits p d hp hd hclean⟩
    cases hp : Intent.parse k.model v with
    | error issues => exact misfits_of_parse_error hp
    | ok p =>
      obtain ⟨d, hd⟩ := exists_ofPart (c := c) (p := p) hk'
      by_cases hclean : d.IsClean
      · exact misfits_of_finds hk hk' hp hd hclean (hfits p d hp hd hclean)
      · exact misfits_of_not_isClean hk hk' hp hd hclean
  · obtain ⟨hk, hk'⟩ : k ≠ .addEntity ∧ k ≠ .addCapability := by
      constructor <;> rintro rfl <;> simp at hmem
    have hdecides := fun p d hp hd hclean =>
      Draft.decides_payload_of_fields (p := p) (d := d) hc ht hp hmem hd hclean
    refine ⟨fun p d hp hd hclean => ?_, ?_⟩
    · exact (hdecides p d (Intent.accepted_of_parse hp) hd hclean).iff.symm
    · exact misfits_ne_nil_iff hk hk' (fun p d hp hd hclean => by
        simpa using hdecides p d hp hd hclean) v
  · obtain ⟨hk, hk'⟩ : k ≠ .addEntity ∧ k ≠ .addCapability := by
      constructor <;> rintro rfl <;> simp at hmem
    have hfinds := fun p d hp hd hclean =>
      Draft.finds_copied (p := p) (d := d) hc ht hp hmem hd hclean
    refine ⟨fun issues hp => misfits_of_parse_error hp, fun p d hp hd => ⟨fun hclean => ?_, ?_⟩, ?_⟩
    · rw [misfits_of_finds hk hk' hp hd hclean (hfinds p d (Intent.accepted_of_parse hp) hd hclean),
        reportIssues_textIssues]
    · exact misfits_of_not_isClean hk hk' hp hd
    · refine misfits_ne_nil_iff hk hk' (fun p d hp hd hclean => ⟨_, hfinds p d hp hd hclean, ?_⟩) v
      simp [textIssues_eq_nil]

/-- Of fields that go, each is named once in the envelope, and the one without a name is found
there. -/
theorem misfits_eq_textReports_removed :
    let c : Context := ⟨"intent", "project", "0.1.0", none, none, ⟨true, .snake⟩⟩
    let now : DateTime := ⟨⟨2024, 1, 2⟩, 12, 0, 0, 0, none⟩
    let v : Value := .obj [("kind", .str "remove_field"), ("scope", .str "data"),
      ("entity", .str "User"), ("fields", .texts ["age", "", "name", "", "age"])]
    misfits (ofKind .removeField c now (.plain v)).result =
      [⟨"IR099", .error, "IR validation failed: String should have at least 1 character",
        "$.fieldNames[1]"⟩] := by
  intro c now v
  have hc : c.IsValid := by decide
  have ht : now.IsValid := by decide
  obtain ⟨-, -, hcopied⟩ := misfits_eq_textReports hc ht
  obtain ⟨-, hmisfits, -⟩ := hcopied .removeField (by decide) v
  exact (hmisfits _ _ rfl rfl).1 ⟨rfl, rfl⟩

/-- A half of a pair is no empty text, and is found in the envelope next to an empty one. -/
theorem misfits_torn :
    let c : Context := ⟨"intent", "project", "0.1.0", none, none, ⟨true, .snake⟩⟩
    let now : DateTime := ⟨⟨2024, 1, 2⟩, 12, 0, 0, 0, none⟩
    let torn := String.ofList (Text.Point.half 0).held
    let v : Value := .obj [("kind", .str "remove_field"), ("scope", .str "data"),
      ("entity", .str "User"), ("fields", .texts ["", torn])]
    torn ≠ "" ∧ misfits (ofKind .removeField c now (.plain v)).result =
      [⟨"IR099", .error, "IR validation failed: String should have at least 1 character",
          "$.fieldNames[0]"⟩,
        ⟨"IR099", .error, "IR validation failed: Input should be a valid string, " ++
          "unable to parse raw data as a unicode string", "$.fieldNames[1]"⟩] := by
  decide +kernel

end Resolution
end SchemaIntents
