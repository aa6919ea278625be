import SchemaIntents.Document
import SchemaIntents.Proofs.Context.Construction
import SchemaIntents.Proofs.Shape.Alteration

/-! Contexts with known entities, and the same contexts where every entity may exist. -/
namespace SchemaIntents

namespace Context

variable {settings : Except Settings.Fault Settings}
  {arguments : List (String × Value)} {c : Context}

/-- A checked context fits too where every entity may exist, and says the same but for the
entities. -/
theorem checker_untracked {s : Settings} {known options : Value} {i : Instance Name}
    (h : (Value.obj (Value.put "options" options
      (Value.put "existing_entities" known arguments))).checker
      (schema s) Shape.levelLimit (.model .context) = .ok i) :
    ∃ i', (Value.obj (Value.put "options" options
        (Value.put "existing_entities" .null arguments))).checker (schema s) Shape.levelLimit
          (.model .context) = .ok i' ∧
      ofInstance s i' = (ofInstance s i).withKnown none := by
  have hsame : ∀ key ≠ "existing_entities",
      Value.find? key (Value.put "options" options
        (Value.put "existing_entities" known arguments)) =
        Value.find? key (Value.put "options" options
          (Value.put "existing_entities" .null arguments)) := by
    intro key hkey
    exact Value.find?_put_congr (by rw [Value.find?_put_of_ne hkey, Value.find?_put_of_ne hkey])
  obtain ⟨i', hi', hknown, hfields⟩ := Shape.checker_replace (n := Name.context)
    (f := .maybe "existing_entities" "existing_entities" .names) (v := .null)
      (j := .plain .null) rfl
    (names_nodup s .context) (by simp [schema])
    (by
      intro u hu hname
      simp only [schema, List.mem_cons, List.not_mem_nil, or_false] at hu
      rcases hu with rfl | rfl | rfl | rfl | rfl | rfl <;>
        simp [Field.required, Field.defaulted, Field.maybe] at hname ⊢)
    (by simp only [Value.keys_put]) hsame
    (by rw [Field.maybe, Value.find?_put_of_ne (by decide), Value.find?_put_self]) rfl h
  refine ⟨i', hi', ?_⟩
  have hnull : i'.field (schema s) "existing_entities" = .plain .null := hknown
  simp only [ofInstance, withKnown, hnull, hfields "intent_id" (by simp [Field.maybe]),
    hfields "project_id" (by simp [Field.maybe]), hfields "oiml_version" (by simp [Field.maybe]),
    hfields "model" (by simp [Field.maybe]), hfields "options" (by simp [Field.maybe])]
  rfl

/-- Arguments that make a context make the same context where every entity may exist, if they are
not told of any. -/
theorem ofArguments_untracked (h : ofArguments settings arguments = .ok c) :
    ofArguments settings (Value.put "existing_entities" .null arguments) =
      .ok (c.withKnown none) := by
  have hversion : Value.find? "oiml_version" (Value.put "existing_entities" .null arguments) =
      Value.find? "oiml_version" arguments := Value.find?_put_of_ne (by decide) _ _
  have hoptions : Value.find? "options" (Value.put "existing_entities" .null arguments) =
      Value.find? "options" arguments := Value.find?_put_of_ne (by decide) _ _
  simp only [ofArguments] at h ⊢
  rw [hversion, hoptions, Value.find?_put_self]
  obtain ⟨forVersion, hforVersion, h⟩ := bind_eq_ok h
  obtain ⟨known, -, h⟩ := bind_eq_ok h
  obtain ⟨forOptions, hforOptions, h⟩ := bind_eq_ok h
  split at h
  · rename_i i hi
    obtain rfl := Except.ok.inj h
    obtain ⟨i', hi', hsame⟩ := checker_untracked hi
    rw [hforVersion]
    simp only [bind, Except.bind, Option.getD_some, collection, hforOptions, Value.put_put]
    rw [Value.check_eq_checker, hi']
    exact congrArg Except.ok hsame
  · exact absurd h throw_ne_ok

end Context

namespace Document

variable {settings : Except Settings.Fault Settings} {q : Request} {d : Document} {c : Context}

/-- What a document and its request say of the context. -/
def arguments (s : Settings) (q : Request) (d : Document) (id : Value) : List (String × Value) :=
  [("intent_id", id), ("project_id", firstOf q.projectId (.str s.projectId)),
    ("oiml_version", .str d.version), ("model", firstOf q.model
      (firstOf (authorModel d.whole) ((s.model.map Value.str).getD .null))),
    ("existing_entities", q.known)]

/-- The identity under which the intents of a document are resolved: the one that is asked for, else
the document's own. -/
def Identifies (q : Request) (d : Document) (id : Value) : Prop :=
  if q.intentId.truthy then id = q.intentId else ∃ text, identity q.room d.raw =
    .ok text ∧ id = .str text

/-- A document has the context that its arguments make. -/
theorem context_eq_ok_iff : context settings q d = .ok c ↔
    ∃ s id, settings = .ok s ∧ Identifies q d id ∧
      Context.ofArguments settings (arguments s q d id) = .ok c := by
  cases settings with
  | error f => simp [context, bind, Except.bind, throw, throwThe, MonadExceptOf.throw]
  | ok s =>
    simp only [context, pure, Except.pure, bind, Except.bind, Except.ok.injEq, exists_and_left,
      exists_eq_left']
    by_cases hid : q.intentId.truthy = true
    · simp only [Identifies, hid, if_true, exists_eq_left, arguments]
      split
      case h_1 made => rw [made, Except.ok.injEq, Except.ok.injEq]
      case h_2 made => simp [made, throw, throwThe, MonadExceptOf.throw]
    · cases htext : identity q.room d.raw with
      | error f => simp [Identifies, hid, htext, throw, throwThe, MonadExceptOf.throw]
      | ok text =>
        simp only [Identifies, hid, htext, if_false, Bool.false_eq_true, Except.ok.injEq,
          exists_eq_left', exists_eq_left, arguments]
        split
        case h_1 made => rw [made, Except.ok.injEq, Except.ok.injEq]
        case h_2 made => simp [made, throw, throwThe, MonadExceptOf.throw]

/-- A document that has a context has the same one where every entity may exist. -/
theorem context_untracked (h : context settings q d = .ok c) :
    context settings { q with known := .null } d = .ok (c.withKnown none) := by
  obtain ⟨s, id, hs, hid, hc⟩ := context_eq_ok_iff.mp h
  exact context_eq_ok_iff.mpr ⟨s, id, hs, hid, Context.ofArguments_untracked hc⟩

end Document
end SchemaIntents
