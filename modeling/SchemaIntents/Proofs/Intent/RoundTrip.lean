import SchemaIntents.Proofs.Intent.Faithful
import SchemaIntents.Proofs.Shape.Gaps

/-! Checked intents, written out and checked again. Nothing that they need is null, so nothing is
missing in what they are written as, and it is accepted as what it was. -/
namespace SchemaIntents

/-- What an instance is dumped as does not depend on which fields were given. -/
theorem Instance.dump_bare {ν : Type} {schema : Schema ν} (i : Instance ν) :
    i.bare.dump schema = i.dump schema := by
  induction i using Instance.induction with
  | plain v => rfl
  | list is ih =>
    rw [bare_list, dump, dump, dumpAll_eq, dumpAll_eq, List.map_map]
    exact congrArg Value.list (List.map_congr_left ih)
  | table es ih =>
    rw [bare_table, dump, dump, dumpEntries_eq, dumpEntries_eq, List.map_map]
    exact congrArg Value.obj (List.map_congr_left fun e he => congrArg (e.1, ·) (ih e he))
  | model n given values ih =>
    rw [bare_model, dump, dump, dumpAll_eq, dumpAll_eq, List.map_map]
    exact congrArg (fun vs => Value.obj (present (·.wire) (schema n).fields vs))
      (List.map_congr_left ih)

namespace Intent

open Instance Shape

/-- No required field of an intent may be null. -/
theorem solid : Solid schema fun _ => true := by
  intro n _
  cases n <;> decide

theorem exists_parse_dump {n : Name} {v : Value} {p : Part} (h : parse n v = .ok p) :
    ∃ q, parse n (p.dump schema) = .ok q ∧ q.bare = p.bare := by
  have hread := reads_of_parse h
  obtain ⟨q, hq, hc⟩ := checker_dump schema_faithful rfl hread
  rw [gapsAs_eq_nil schema_faithful solid hread rfl, lacking_nil] at hc
  exact ⟨q, hc, hq⟩

/-- Whatever is accepted for a model of intents, or for their documents, is accepted again as it is
written out, with the same fields, and it is written out as before. -/
theorem parse_dump {n : Name} {v : Value} {p : Part} (h : parse n v = .ok p) :
    ∃ q, parse n (p.dump schema) = .ok q ∧ q.bare = p.bare ∧ q.dump schema = p.dump schema := by
  obtain ⟨q, hparse, hq⟩ := exists_parse_dump h
  exact ⟨q, hparse, hq, by rw [← dump_bare, hq, dump_bare]⟩

/-- An intent with a text for a flag and for a number, a whole number for a real one, a null field,
and a null in what stands free. -/
def loose : Value := .obj [
  ("kind", .str "add_field"),
  ("entity", .str "User"),
  ("fields", .list [.obj [
    ("name", .str "age"),
    ("type", .str "int"),
    ("required", .str "yes"),
    ("max_length", .str "12"),
    ("min", .int 1),
    ("pattern", .null),
    ("default", .obj [("a", .null)])]])]

/-- The same intent as it is written out. -/
def strict : Value := .obj [
  ("kind", .str "add_field"),
  ("scope", .str "data"),
  ("entity", .str "User"),
  ("fields", .list [.obj [
    ("name", .str "age"),
    ("type", .str "int"),
    ("required", .bool true),
    ("default", .obj [("a", .null)]),
    ("max_length", .int 12),
    ("min", .float ⟨0x3ff0000000000000⟩),
    ("attributes", .list [])]])]

theorem parse_dump_loose : ∃ p q, parse .addField loose = .ok p ∧ p.dump schema = strict ∧
    parse .addField strict = .ok q ∧ q.bare = p.bare := by
  obtain ⟨q, hparse, hq, -⟩ := parse_dump (n := .addField) (v := loose) rfl
  exact ⟨_, q, rfl, rfl, hparse, hq⟩

end Intent
end SchemaIntents
