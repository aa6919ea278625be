import Mathlib.Data.List.Forall2
import SchemaIntents.Shape.Check

/-! Checking a value seen through its parts: lists and mappings fit item by item, and what is
collected on the way is one instance for each part or the issues of all parts together. -/
namespace SchemaIntents

/-- What comes to a result comes to one at each of its steps. -/
theorem bind_eq_ok {ε α β : Type} {x : Except ε α} {f : α → Except ε β} {b : β}
    (h : (x >>= f) = .ok b) : ∃ a, x = .ok a ∧ f a = .ok b := by
  cases x with
  | error e => simp [bind, Except.bind] at h
  | ok a => exact ⟨a, rfl, h⟩

/-- What comes to an error comes to it at the first step or, after a result of that, at the next. -/
theorem bind_eq_error {ε α β : Type} {x : Except ε α} {f : α → Except ε β} {e : ε}
    (h : (x >>= f) = .error e) : x = .error e ∨ ∃ a, x = .ok a ∧ f a = .error e := by
  cases x with
  | error e' =>
    cases h
    exact .inl rfl
  | ok a => exact .inr ⟨a, rfl, h⟩

theorem throw_ne_ok {ε α : Type} {e : ε} {a : α} : (throw e : Except ε α) ≠ .ok a := by
  simp [throw, throwThe, MonadExceptOf.throw]

theorem eq_ok_of_toOption {ε α : Type} {x : Except ε α} {a : α} (h : x.toOption = some a) :
    x = .ok a := by
  cases x with
  | error e => simp [Except.toOption] at h
  | ok b => exact congrArg Except.ok (Option.some.inj h)

theorem exists_eq_ok {ε α : Type} {x : Except ε α} (h : x.isOk = true) : ∃ a, x = .ok a := by
  cases x with
  | error e => cases h
  | ok a => exact ⟨a, rfl⟩

/-- Outcomes that are the same after a change are the same errors, or results that the change makes
the same. -/
theorem map_eq_map {ε α β : Type} {f : α → β} {x y : Except ε α} (h : x.map f = y.map f) :
    (∃ e, x = .error e ∧ y = .error e) ∨ ∃ a b, x = .ok a ∧ y = .ok b ∧ f a = f b := by
  cases x with
  | error e =>
    cases y with
    | error e' =>
      obtain rfl := Except.error.inj h
      exact .inl ⟨e, rfl, rfl⟩
    | ok b => simp [Except.map] at h
  | ok a =>
    cases y with
    | error e' => simp [Except.map] at h
    | ok b => exact .inr ⟨a, b, rfl, rfl, Except.ok.inj h⟩

variable {ν : Type} {schema : Schema ν}

namespace Checked

theorem under_eq_ok {step : Step} {c : Checked ν} {i : Instance ν} :
    c.under step = .ok i ↔ c = .ok i := by
  cases c <;> simp [under]

@[simp] theorem under_ok (step : Step) (i : Instance ν) :
    under step (.ok i : Checked ν) = .ok i := rfl

@[simp] theorem under_error (step : Step) (is : List Issue) :
    under step (.error is : Checked ν) = .error (is.map (·.under step)) := rfl

@[simp] theorem issues_ok (i : Instance ν) : issues (.ok i : Checked ν) = [] := rfl

@[simp] theorem issues_error (is : List Issue) : issues (.error is : Checked ν) = is := rfl

theorem fail_ne_ok {c : Cause} {i : Instance ν} : (fail c : Checked ν) ≠ .ok i := by
  simp [fail]

/-- Everything fits exactly when each outcome is an instance, and then it is all of them. -/
theorem collect_map_eq_ok {α : Type} {g : α → Checked ν} {as : List α} {is : List (Instance ν)} :
    collect (as.map g) = .ok is ↔ List.Forall₂ (fun a i => g a = .ok i) as is := by
  induction as generalizing is with
  | nil => cases is <;> simp [collect]
  | cons a as ih =>
    simp only [List.map_cons, collect]
    cases ha : g a with
    | error here => cases collect (as.map g) <;> simp [List.forall₂_cons_left_iff, ha]
    | ok i =>
      cases hr : collect (as.map g) with
      | error later =>
        simp only [reduceCtorEq, List.forall₂_cons_left_iff, ha, false_iff]
        rintro ⟨j, js, -, hjs, -⟩
        simp [ih.mpr hjs] at hr
      | ok js =>
        simp only [Except.ok.injEq, List.forall₂_cons_left_iff, ha]
        constructor
        · rintro rfl
          exact ⟨i, js, rfl, ih.mp hr, rfl⟩
        · rintro ⟨k, ks, rfl, hks, rfl⟩
          have := ih.mpr hks
          simp_all

end Checked

namespace Value

/-- A value with its parts, waiting for levels and a shape. -/
def checker (schema : Schema ν) (v : Value) : Checker ν :=
  Shape.checkParts schema v (v.parts schema)

theorem check_eq_checker (v : Value) (s : Shape ν) :
    v.check schema s = v.checker schema Shape.levelLimit s := rfl

theorem checkers_eq (vs : List Value) : checkers schema vs = vs.map (checker schema) := by
  induction vs with
  | nil => rfl
  | cons v vs ih => simp [checkers, ih, checker]

theorem fieldCheckers_eq (es : List (String × Value)) :
    fieldCheckers schema es = es.map fun e => (.str e.1, e.2.checker schema) := by
  induction es with
  | nil => rfl
  | cons e es ih => obtain ⟨k, v⟩ := e; simp [fieldCheckers, ih, checker]

theorem entryCheckers_eq (es : List (Value × Value)) :
    entryCheckers schema es = es.map fun e => (e.1, e.2.checker schema) := by
  induction es with
  | nil => rfl
  | cons e es ih => obtain ⟨k, v⟩ := e; simp [entryCheckers, ih, checker]

theorem sizeOf_entry_lt {κ β : Type} [SizeOf κ] [SizeOf β] {es : List (κ × β)} {e : κ × β}
    (h : e ∈ es) : sizeOf e.2 < sizeOf es := by
  have hs := List.sizeOf_lt_of_mem h
  obtain ⟨k, v⟩ := e
  simp only [Prod.mk.sizeOf_spec] at hs ⊢
  omega

theorem findAny?_text_keys (key : String) (es : List (String × Value)) :
    findAny? key (es.map fun e => (.str e.1, e.2)) = find? key es := by
  induction es with
  | nil => rfl
  | cons e es ih => obtain ⟨k, v⟩ := e; simp [findAny?, find?, ih]

/-- The values that a value is checked by. -/
def children : Value → List Value
  | .list items => items
  | .set items => items
  | .pair k v => [k, v]
  | .obj entries => entries.map (·.2)
  | .map entries => entries.map (·.2)
  | .loop v => v.children
  | _ => []

theorem sizeOf_child_lt {v w : Value} (h : w ∈ v.children) : sizeOf w < sizeOf v := by
  match v with
  | .list items | .set items =>
    have : sizeOf w < sizeOf items := List.sizeOf_lt_of_mem h
    simp only [list.sizeOf_spec, set.sizeOf_spec]
    omega
  | .pair k u =>
    simp only [children, List.mem_cons, List.not_mem_nil, or_false] at h
    rcases h with rfl | rfl <;> simp only [pair.sizeOf_spec] <;> omega
  | .obj es =>
    obtain ⟨e, he, rfl⟩ := List.mem_map.mp h
    have := sizeOf_entry_lt he
    simp only [obj.sizeOf_spec]
    omega
  | .map es =>
    obtain ⟨e, he, rfl⟩ := List.mem_map.mp h
    have := sizeOf_entry_lt he
    simp only [map.sizeOf_spec]
    omega
  | .loop u =>
    have := sizeOf_child_lt (v := u) h
    simp only [loop.sizeOf_spec]
    omega
  | .null | .bool _ | .int _ | .float _ | .str _ | .date _ | .dateTime _ | .bytes _ =>
    simp [children] at h

/-- What a value is taken apart into: nothing, items, or entries that are found by their keys. -/
theorem parts_cases (schema : Schema ν) (v : Value) :
    v.parts schema = .none ∨
      (∃ vs : List Value, (∀ w ∈ vs, w ∈ v.children) ∧
        v.parts schema = .items (vs.map (checker schema))) ∨
      (∃ es : List (Value × Value), (∀ e ∈ es, e.2 ∈ v.children) ∧
        (∀ key, v.lookup? key = findAny? key es) ∧
        v.parts schema = .entries (es.map fun e => (e.1, e.2.checker schema))) := by
  match v with
  | .list items | .set items =>
    exact .inr (.inl ⟨items, fun w hw => hw, by simp [parts, checkers_eq]⟩)
  | .pair k w => exact .inr (.inl ⟨[k, w], fun u hu => hu, by simp [parts, checker]⟩)
  | .obj es =>
    refine .inr (.inr ⟨es.map fun e => (.str e.1, e.2), fun e hm => ?_, fun key => ?_, by
      simp [parts, fieldCheckers_eq]⟩)
    · obtain ⟨e, he, rfl⟩ := List.mem_map.mp hm
      exact List.mem_map_of_mem he
    · rw [findAny?_text_keys]
      rfl
  | .map es =>
    exact .inr (.inr ⟨es, fun e he => List.mem_map_of_mem he, fun _ => rfl, by
      simp [parts, entryCheckers_eq]⟩)
  | .loop w =>
    rcases parts_cases schema w with h | ⟨vs, hs, h⟩ | ⟨es, hs, hk, h⟩
    · exact .inl (by simpa [parts] using h)
    · exact .inr (.inl ⟨vs, hs, by simpa [parts] using h⟩)
    · exact .inr (.inr ⟨es, hs, hk, by simpa [parts] using h⟩)
  | .null | .bool _ | .int _ | .float _ | .str _ | .date _ | .dateTime _ | .bytes _ =>
    exact .inl rfl

end Value

namespace Shape

open Checked

theorem checkItems_eq (levels : Nat) (item : Shape ν) (first : Nat) (vs : List Value) :
    checkItems levels item first (vs.map (Value.checker schema)) =
      (vs.zipIdx first).map fun v => (v.1.checker schema levels item).under (.index v.2) := by
  induction vs generalizing first with
  | nil => rfl
  | cons v vs ih => simp [checkItems, ih]

theorem collect_checkItems_eq_ok (first : Nat) {levels : Nat} {item : Shape ν} {vs : List Value}
    {is : List (Instance ν)} :
    collect (checkItems levels item first (vs.map (Value.checker schema))) = .ok is ↔
      List.Forall₂ (fun v i => v.checker schema levels item = .ok i) vs is := by
  rw [checkItems_eq, collect_map_eq_ok]
  simp only [under_eq_ok]
  rw [← List.forall₂_map_left_iff (f := Prod.fst)
    (R := fun v i => Value.checker schema v levels item = .ok i), List.zipIdx_map_fst]

/-- A list fits when it is long enough and each of its items fits. -/
theorem checkList_eq_ok {levels least : Nat} {item : Shape ν} {vs : List Value} {i : Instance ν} :
    checkList levels least item (vs.map (Value.checker schema)) = .ok i ↔
      ∃ is, i = .list is ∧ least ≤ is.length ∧
        List.Forall₂ (fun v i => v.checker schema levels item = .ok i) vs is := by
  simp only [← collect_checkItems_eq_ok 0]
  unfold checkList
  cases collect (checkItems levels item 0 (vs.map (Value.checker schema))) with
  | error issues => simp
  | ok is =>
    by_cases hl : is.length < least
    · simp only [hl, if_true, Except.ok.injEq]
      constructor
      · intro h
        exact absurd h fail_ne_ok
      · rintro ⟨js, -, hj, rfl⟩
        omega
    · simp only [hl, if_false, Except.ok.injEq]
      constructor
      · rintro rfl
        exact ⟨is, rfl, by omega, rfl⟩
      · rintro ⟨js, rfl, -, rfl⟩
        rfl

theorem checker_list_list (levels least : Nat) (item : Shape ν) (vs : List Value) :
    (Value.list vs).checker schema levels (.list least item) =
      checkList levels least item (vs.map (Value.checker schema)) := by
  simp [Value.checker, checkParts, Value.parts, Value.checkers_eq]

/-- What comes of one entry of a table: its key is a text, and its value fits. -/
def entryOutcome (schema : Schema ν) (levels : Nat) (entry : Shape ν) (e : Value × Value) :
    Checked ν :=
  let here := (e.2.checker schema levels entry).under (stepTo e.1)
  match keyIssues e.1 with
  | [] => here
  | issues => .error (issues ++ here.issues)

theorem entryOutcome_eq_ok {levels : Nat} {entry : Shape ν} {e : Value × Value}
    {i : Instance ν} : entryOutcome schema levels entry e = .ok i ↔
      keyIssues e.1 = [] ∧ e.2.checker schema levels entry = .ok i := by
  unfold entryOutcome
  cases keyIssues e.1 <;> simp [under_eq_ok]

theorem checkEntries_eq (levels : Nat) (entry : Shape ν) (es : List (Value × Value)) :
    checkEntries levels entry (es.map fun e => (e.1, e.2.checker schema)) =
      es.map (entryOutcome schema levels entry) := by
  induction es with
  | nil => rfl
  | cons e es ih =>
    simp only [List.map_cons, checkEntries, ih]
    rfl

/-- A mapping fits when the text of each key can be read and each entry fits. -/
theorem checkTable_eq_ok {levels : Nat} {entry : Shape ν} {es : List (Value × Value)}
    {i : Instance ν} :
    checkTable levels entry (es.map fun e => (e.1, e.2.checker schema)) = .ok i ↔
      ∃ is, i = .table ((es.map fun e => keyText e.1).zip is) ∧
        List.Forall₂ (fun e i => keyIssues e.1 = [] ∧
          Value.checker schema e.2 levels entry = .ok i) es is := by
  simp only [← entryOutcome_eq_ok, ← collect_map_eq_ok]
  unfold checkTable
  rw [checkEntries_eq]
  cases collect (es.map (entryOutcome schema levels entry)) with
  | error issues => simp
  | ok is => simp [Function.comp_def, eq_comm]

/-- Entries as those of a mapping with any keys. -/
def textKeyed (es : List (String × Value)) : List (Value × Value) :=
  es.map fun e => (.str e.1, e.2)

theorem parts_obj (es : List (String × Value)) :
    (Value.obj es).parts schema =
      .entries ((textKeyed es).map fun e => (e.1, e.2.checker schema)) := by
  simp [Value.parts, Value.fieldCheckers_eq, textKeyed]

theorem checker_obj_table (levels : Nat) (entry : Shape ν) (es : List (String × Value)) :
    (Value.obj es).checker schema levels (.table entry) =
      checkTable levels entry ((textKeyed es).map fun e => (e.1, e.2.checker schema)) := by
  simp only [Value.checker, checkParts, parts_obj]

theorem checker_obj_model (levels : Nat) (name : ν) (es : List (String × Value)) :
    (Value.obj es).checker schema levels (.model name) =
      checkModel schema levels name
        ((textKeyed es).map fun e => (e.1, e.2.checker schema)) := by
  simp only [Value.checker, checkParts, parts_obj]

theorem checker_obj_tagged (levels : Nat) (tag : String) (choices : List (String × ν))
    (es : List (String × Value)) :
    (Value.obj es).checker schema levels (.tagged tag choices) =
      match Value.find? tag es with
      | none => fail (.noTag tag)
      | some found =>
        match choice? found choices with
        | some (t, n) => ((Value.obj es).checker schema levels (.model n)).under (.key t)
        | none => fail (.unknownTag tag (Text.mended (shown found Value.plain))
            (choices.map (·.1))) := by
  simp only [Value.checker, checkParts, parts_obj]
  rfl

end Shape
end SchemaIntents
