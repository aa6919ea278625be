import SchemaIntents.Document
import SchemaIntents.Proofs.Intent.RoundTrip

/-! Documents that were checked before. They are resolved as what they are written as. -/
namespace SchemaIntents

open Instance

namespace Intent.Part

variable {p : Part} {name : String}

theorem get_bare : get p.bare name = (get p name).bare :=
  field_bare p name

theorem text_bare : text p.bare name = text p name := by
  rw [text, text, get_bare, Instance.text_bare]

theorem some?_bare : some? p.bare name = some? p name := by
  rw [some?, some?, text?, text?, get_bare, Instance.text?_bare]

theorem mapping?_bare : mapping? p.bare name = mapping? p name := by
  rw [mapping?, mapping?, get_bare]
  cases get p name <;> simp

theorem items?_bare : items? p.bare name = (items? p name).map (·.map bare) := by
  rw [items?, items?, get_bare]
  cases get p name <;> simp [Instance.items?]

theorem part?_bare : part? p.bare name = (part? p name).map bare := by
  rw [part?, part?, get_bare, Instance.some?, Instance.some?, isNull_bare]
  split <;> rfl

end Intent.Part

namespace Document

open Intent.Part

theorem authorModel_bare (whole : Intent.Part) : authorModel whole.bare = authorModel whole := by
  rw [authorModel, authorModel, part?_bare]
  cases part? whole "provenance" with
  | none => rfl
  | some p => simp only [Option.map_some, some?_bare, mapping?_bare]

variable {d d' : Document}

theorem intents_congr (h : d'.whole.bare = d.whole.bare) : d'.intents = d.intents := by
  have values : ∀ d : Document, d.intents = ((items? d.whole.bare "intents").getD []).map
    value := by
    intro d
    rw [intents, items?_bare]
    cases items? d.whole "intents" with
    | none => rfl
    | some is =>
      rw [Option.map_some, Option.getD_some, Option.getD_some, List.map_map]
      exact List.map_congr_left fun i _ => by cases i <;> simp [value]
  rw [values, values, h]

/-- A document is resolved by its fields and by what it was written as. -/
theorem resolve_congr (settings : Except Settings.Fault Settings) (q : Request) (now : DateTime)
    (h : d'.whole.bare = d.whole.bare) (hraw : d'.raw = d.raw) :
    resolve settings q now d' = resolve settings q now d := by
  have hversion : d'.version = d.version := by
    rw [version, version, ← Intent.Part.text_bare, h, Intent.Part.text_bare]
  have hmodel : authorModel d'.whole = authorModel d.whole := by
    rw [← authorModel_bare, h, authorModel_bare]
  have hcontext : context settings q d' = context settings q d := by
    simp only [context, hversion, hmodel, hraw]
  have hrun : ∀ c, resolveIn c now d' = resolveIn c now d := by
    intro c
    simp only [resolveIn, intents_congr h]
  simp only [resolve, hcontext, hrun]

/-- A document that was checked before is resolved as what it is written as. -/
theorem resolveValue_dump {v : Value} {p : Intent.Part} (h : Intent.parse .document v = .ok p)
    (settings : Except Settings.Fault Settings) (q : Request) (now : DateTime) :
    resolveValue settings q now (p.dump Intent.schema) = resolve settings q now (ofPart p) := by
  obtain ⟨whole, hparse, hwhole⟩ := Intent.exists_parse_dump h
  rw [resolveValue, ofValue, hparse, Except.map]
  exact resolve_congr settings q now hwhole rfl

end Document
end SchemaIntents
