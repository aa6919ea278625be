import SchemaIntents.Proofs.Shape.Checking
import SchemaIntents.Shape.Dump

/-! The parts of an instance, induction over them, and the instance without the record of which
fields were given. -/
namespace SchemaIntents.Instance

variable {ν : Type} {schema : Schema ν}

/-- What holds of an instance when it holds of its direct parts holds of every instance. -/
@[elab_as_elim]
theorem induction {P : Instance ν → Prop} (plain : ∀ v, P (.plain v))
    (list : ∀ is, (∀ i ∈ is, P i) → P (.list is))
    (table : ∀ es, (∀ e ∈ es, P e.2) → P (.table es))
    (model : ∀ n given values, (∀ i ∈ values, P i) → P (.model n given values)) : ∀ i, P i
  | .plain v => plain v
  | .list is => list is fun i _ => induction plain list table model i
  | .table es => table es fun e he =>
    have := Value.sizeOf_entry_lt he
    induction plain list table model e.2
  | .model n given values => model n given values fun i _ => induction plain list table model i

/-- One instance is another or one of its parts, however deep. -/
inductive Within : Instance ν → Instance ν → Prop
  | self (i : Instance ν) : Within i i
  | item {i j : Instance ν} {is : List (Instance ν)} : j ∈ is → Within i j → Within i (.list is)
  | entry {i : Instance ν} {e : String × Instance ν} {es : List (String × Instance ν)} :
      e ∈ es → Within i e.2 → Within i (.table es)
  | field {i j : Instance ν} {n : ν} {given : List Bool} {values : List (Instance ν)} :
      j ∈ values → Within i j → Within i (.model n given values)

theorem dumpAll_eq (is : List (Instance ν)) : dumpAll schema is = is.map (dump schema) := by
  induction is with
  | nil => rfl
  | cons i is ih => simp [dumpAll, ih]

theorem dumpEntries_eq (es : List (String × Instance ν)) :
    dumpEntries schema es = es.map fun e => (e.1, e.2.dump schema) := by
  induction es with
  | nil => rfl
  | cons e es ih => obtain ⟨k, i⟩ := e; simp [dumpEntries, ih]

theorem wireAll_eq (s : Shape ν) (is : List (Instance ν)) :
    wireAll schema s is = is.map (wireAs schema s) := by
  induction is with
  | nil => rfl
  | cons i is ih => simp [wireAll, ih]

theorem wireEntries_eq (s : Shape ν) (es : List (String × Instance ν)) :
    wireEntries schema s es = es.map fun e => (e.1, e.2.wireAs schema s) := by
  induction es with
  | nil => rfl
  | cons e es ih => obtain ⟨k, i⟩ := e; simp [wireEntries, ih]

/-- Only null is written as null. -/
theorem dump_eq_null {i : Instance ν} : i.dump schema = .null ↔ i = .plain .null := by
  cases i <;> simp [dump]

theorem isNull_iff {i : Instance ν} : i.isNull = true ↔ i = .plain .null := by
  cases i with
  | plain v => cases v <;> simp [isNull]
  | _ => simp [isNull]

mutual

/-- An instance without the record of which fields were given. -/
def bare : Instance ν → Instance ν
  | plain v => plain v
  | list is => list (bareAll is)
  | table es => table (bareEntries es)
  | model n _ values => model n [] (bareAll values)

def bareAll : List (Instance ν) → List (Instance ν)
  | [] => []
  | i :: is => i.bare :: bareAll is

def bareEntries : List (String × Instance ν) → List (String × Instance ν)
  | [] => []
  | (k, i) :: rest => (k, i.bare) :: bareEntries rest

end

@[simp] theorem bareAll_eq (is : List (Instance ν)) : bareAll is = is.map bare := by
  induction is with
  | nil => rfl
  | cons i is ih => simp [bareAll, ih]

@[simp] theorem bareEntries_eq (es : List (String × Instance ν)) :
    bareEntries es = es.map fun e => (e.1, e.2.bare) := by
  induction es with
  | nil => rfl
  | cons e es ih => obtain ⟨k, i⟩ := e; simp [bareEntries, ih]

@[simp] theorem bare_plain (v : Value) : (plain v : Instance ν).bare = plain v := rfl

@[simp] theorem bare_list (is : List (Instance ν)) : (list is).bare = list (is.map bare) := by
  simp [bare]

@[simp] theorem bare_table (es : List (String × Instance ν)) :
    (table es).bare = table (es.map fun e => (e.1, e.2.bare)) := by
  simp [bare]

@[simp] theorem bare_model (n : ν) (given : List Bool) (values : List (Instance ν)) :
    (model n given values).bare = model n [] (values.map bare) := by
  simp [bare]

@[simp] theorem isNull_bare (i : Instance ν) : i.bare.isNull = i.isNull := by
  cases i <;> simp [isNull]

/-- A field is the same with or without the record. -/
theorem field_bare (i : Instance ν) (name : String) :
    i.bare.field schema name = (i.field schema name).bare := by
  cases i with
  | model n given values =>
    simp only [bare_model, field, List.zip_map_right, List.find?_map]
    have hp : ((fun x => x.1.name == name) ∘ Prod.map id bare : Field ν × Instance ν → Bool) =
        fun x => x.1.name == name := rfl
    rw [hp]
    cases ((schema n).fields.zip values).find? (·.1.name == name) <;> rfl
  | _ => simp [field]

theorem text?_bare (i : Instance ν) : i.bare.text? = i.text? := by
  cases i <;> simp [text?]

theorem text_bare (i : Instance ν) : i.bare.text = i.text := by
  simp [text, text?_bare]

theorem isPart_bare (i : Instance ν) : Shape.isPart i.bare = Shape.isPart i := by
  cases i <;> simp [Shape.isPart]

/-- Rules look at the values of fields alone. -/
theorem ruleFault?_bare (r : Rule) (i : Instance ν) :
    Shape.ruleFault? schema r i.bare = Shape.ruleFault? schema r i := by
  cases r <;> simp [Shape.ruleFault?, field_bare, text_bare, text?_bare, isPart_bare]

end SchemaIntents.Instance
