import SchemaIntents.Proofs.Text.Points
import SchemaIntents.Proofs.Value.Entries
import SchemaIntents.Value.Json

/-! Values that come from a JSON text: JSON can say them again as they are, unless too many lie
inside each other or a key has halves of pairs. -/
namespace SchemaIntents.Value

/-- A value as JSON has it, built from null, truth values, numbers and texts by lists and mappings
with text keys. -/
inductive IsJson : Value → Prop
  | null : IsJson .null
  | bool (b : Bool) : IsJson (.bool b)
  | int (n : Int) : IsJson (.int n)
  | float (x : Binary64) : IsJson (.float x)
  | str (s : String) : IsJson (.str s)
  | list {items : List Value} : (∀ v ∈ items, IsJson v) → IsJson (.list items)
  | obj {entries : List (String × Value)} : (∀ e ∈ entries, IsJson e.2) → IsJson (.obj entries)

attribute [simp] IsJson.null IsJson.bool IsJson.int IsJson.float IsJson.str

@[simp] theorem isJson_list {items : List Value} :
    IsJson (.list items) ↔ ∀ v ∈ items, IsJson v := by
  constructor
  · intro h
    cases h with
    | list h => exact h
  · exact .list

@[simp] theorem isJson_obj {entries : List (String × Value)} :
    IsJson (.obj entries) ↔ ∀ e ∈ entries, IsJson e.2 := by
  constructor
  · intro h
    cases h with
    | obj h => exact h
  · exact .obj

/-- An entry of a value from JSON could have come from JSON by itself. -/
theorem IsJson.get {v : Value} (hv : v.IsJson) (key : String) : (v.get key).IsJson := by
  cases hv with
  | @obj entries hentries =>
    rw [Value.get, Value.get?]
    cases hw : find? key entries with
    | none => exact .null
    | some w => exact hentries _ (mem_of_find? hw)
  | _ => exact .null

mutual

/-- Whether all keys in a value pass one test, and all other texts in it another. -/
def passes (key text : String → Bool) : Value → Bool
  | str s => text s
  | list items => allPass key text items
  | set items => allPass key text items
  | pair k v => passes key text k && passes key text v
  | obj entries => entriesPass key text entries
  | map entries => pairsPass key text entries
  | loop v => passes key text v
  | _ => true

def allPass (key text : String → Bool) : List Value → Bool
  | [] => true
  | v :: vs => passes key text v && allPass key text vs

def entriesPass (key text : String → Bool) : List (String × Value) → Bool
  | [] => true
  | (k, v) :: rest => key k && (passes key text v && entriesPass key text rest)

def pairsPass (key text : String → Bool) : List (Value × Value) → Bool
  | [] => true
  | (k, v) :: rest => passes key text k && (passes key text v && pairsPass key text rest)

end

/-- Whether no key in a value has halves of pairs. -/
def keysWhole (v : Value) : Bool :=
  v.passes (fun k => !Text.isTorn k) fun _ => true

/-- Whether no text in a value has halves of pairs, keys among them. -/
def isWhole (v : Value) : Bool :=
  v.passes (fun k => (Text.release? k.toList).isSome) fun s => (Text.release? s.toList).isSome

section Texts

variable {key text : String → Bool}

@[simp] theorem passes_list {items : List Value} :
    (list items).passes key text = true ↔ ∀ v ∈ items, v.passes key text = true := by
  rw [passes]
  induction items with
  | nil => simp [allPass]
  | cons v vs ih => rw [allPass, Bool.and_eq_true, ih, List.forall_mem_cons]

@[simp] theorem passes_obj {entries : List (String × Value)} :
    (obj entries).passes key text = true ↔
      ∀ e ∈ entries, key e.1 = true ∧ e.2.passes key text = true := by
  rw [passes]
  induction entries with
  | nil => simp [entriesPass]
  | cons e es ih =>
    obtain ⟨k, v⟩ := e
    rw [entriesPass, Bool.and_eq_true, Bool.and_eq_true, ih, List.forall_mem_cons, and_assoc]

theorem isWhole_list {items : List Value} :
    (list items).isWhole = true ↔ ∀ v ∈ items, v.isWhole = true :=
  passes_list

theorem isWhole_obj {entries : List (String × Value)} :
    (obj entries).isWhole = true ↔
      ∀ e ∈ entries, (Text.release? e.1.toList).isSome = true ∧ e.2.isWhole = true :=
  passes_obj

end Texts

mutual

/-- Whether all floats in a value are finite. -/
def isFinite : Value → Bool
  | float x => x.isFinite
  | list items => allFinite items
  | set items => allFinite items
  | pair k v => isFinite k && isFinite v
  | obj entries => entriesFinite entries
  | map entries => pairsFinite entries
  | loop v => isFinite v
  | _ => true

def allFinite : List Value → Bool
  | [] => true
  | v :: vs => isFinite v && allFinite vs

def entriesFinite : List (String × Value) → Bool
  | [] => true
  | (_, v) :: rest => isFinite v && entriesFinite rest

def pairsFinite : List (Value × Value) → Bool
  | [] => true
  | (k, v) :: rest => isFinite k && (isFinite v && pairsFinite rest)

end

mutual

/-- How many values lie inside each other at most, the value itself among them. -/
def depth : Value → Nat
  | list items => depthAll items + 1
  | set items => depthAll items + 1
  | pair k v => max (depth k) (depth v) + 1
  | obj entries => depthEntries entries + 1
  | map entries => depthPairs entries + 1
  | loop v => depth v
  | _ => 1

def depthAll : List Value → Nat
  | [] => 0
  | v :: vs => max (depth v) (depthAll vs)

def depthEntries : List (String × Value) → Nat
  | [] => 0
  | (_, v) :: rest => max (depth v) (depthEntries rest)

def depthPairs : List (Value × Value) → Nat
  | [] => 0
  | (k, v) :: rest => max (depth k) (max (depth v) (depthPairs rest))

end

mutual

/-- How many lists and mappings of a value from JSON stand inside each other at most. -/
def nesting : Value → Nat
  | list items => nestingAll items + 1
  | obj entries => nestingEntries entries + 1
  | _ => 0

def nestingAll : List Value → Nat
  | [] => 0
  | v :: vs => max (nesting v) (nestingAll vs)

def nestingEntries : List (String × Value) → Nat
  | [] => 0
  | (_, v) :: rest => max (nesting v) (nestingEntries rest)

end

theorem allFinite_eq (vs : List Value) : allFinite vs = vs.all isFinite := by
  induction vs with
  | nil => rfl
  | cons v vs ih => simp [allFinite, ih]

theorem entriesFinite_eq (es : List (String × Value)) :
    entriesFinite es = es.all (·.2.isFinite) := by
  induction es with
  | nil => rfl
  | cons e es ih => obtain ⟨k, v⟩ := e; simp [entriesFinite, ih]

theorem toJsonAll_eq (vs : List Value) : toJsonAll vs = vs.map toJson := by
  induction vs with
  | nil => rfl
  | cons v vs ih => simp [toJsonAll, ih]

theorem toJsonEntries_eq (es : List (String × Value)) :
    toJsonEntries es = es.map fun e => (e.1, e.2.toJson) := by
  induction es with
  | nil => rfl
  | cons e es ih => obtain ⟨k, v⟩ := e; simp [toJsonEntries, ih]

theorem depthAll_le {vs : List Value} {n : Nat} : depthAll vs ≤ n ↔ ∀ v ∈ vs, v.depth ≤ n := by
  induction vs with
  | nil => simp [depthAll]
  | cons v vs ih => rw [depthAll, Nat.max_le, ih, List.forall_mem_cons]

theorem depthEntries_le {es : List (String × Value)} {n : Nat} :
    depthEntries es ≤ n ↔ ∀ e ∈ es, e.2.depth ≤ n := by
  induction es with
  | nil => simp [depthEntries]
  | cons e es ih =>
    obtain ⟨k, v⟩ := e
    rw [depthEntries, Nat.max_le, ih, List.forall_mem_cons]

theorem nestingAll_le {vs : List Value} {n : Nat} :
    nestingAll vs ≤ n ↔ ∀ v ∈ vs, v.nesting ≤ n := by
  induction vs with
  | nil => simp [nestingAll]
  | cons v vs ih => rw [nestingAll, Nat.max_le, ih, List.forall_mem_cons]

theorem nestingEntries_le {es : List (String × Value)} {n : Nat} :
    nestingEntries es ≤ n ↔ ∀ e ∈ es, e.2.nesting ≤ n := by
  induction es with
  | nil => simp [nestingEntries]
  | cons e es ih =>
    obtain ⟨k, v⟩ := e
    rw [nestingEntries, Nat.max_le, ih, List.forall_mem_cons]

theorem mendKeys_eq_self {α : Type} {es : List (String × α)}
    (h : ∀ e ∈ es, Text.isTorn e.1 = false) : mendKeys es = es := by
  rw [mendKeys, if_pos]
  rw [List.all_eq_true]
  exact fun e he => by simp [h e he]

/-- What JSON has said once it says again. -/
theorem toJson_of_isJson {v : Value} (h : v.IsJson) (hf : v.isFinite = true) : v.toJson = v := by
  induction h with
  | float x => simpa [toJson, isFinite] using hf
  | @list items _ ih =>
    simp only [isFinite, allFinite_eq, List.all_eq_true] at hf
    rw [toJson, toJsonAll_eq, List.map_congr_left fun v hv => ih v hv (hf v hv), List.map_id']
  | @obj entries _ ih =>
    simp only [isFinite, entriesFinite_eq, List.all_eq_true] at hf
    have same : ∀ e ∈ entries, (e.1, e.2.toJson) = e := fun e he => by rw [ih e he (hf e he)]
    rw [toJson, toJsonEntries_eq, List.map_congr_left same, List.map_id']
  | _ => rfl

/-- JSON can say a value as it is: it came from JSON, and its floats are finite. -/
structure Sayable (v : Value) : Prop where
  isJson : v.IsJson
  isFinite : v.isFinite = true

namespace Sayable

theorem toJson {v : Value} (h : v.Sayable) : v.toJson = v :=
  toJson_of_isJson h.isJson h.isFinite

@[simp] theorem null : Sayable .null := ⟨.null, rfl⟩

@[simp] theorem bool (b : Bool) : Sayable (.bool b) := ⟨.bool b, rfl⟩

@[simp] theorem int (n : Int) : Sayable (.int n) := ⟨.int n, rfl⟩

@[simp] theorem str (s : String) : Sayable (.str s) := ⟨.str s, rfl⟩

end Sayable

@[simp] theorem sayable_list {items : List Value} :
    Sayable (.list items) ↔ ∀ v ∈ items, Sayable v := by
  constructor
  · rintro ⟨hj, hf⟩ v hv
    rw [isFinite, allFinite_eq, List.all_eq_true] at hf
    exact ⟨isJson_list.mp hj v hv, hf v hv⟩
  · intro h
    refine ⟨.list fun v hv => (h v hv).isJson, ?_⟩
    rw [isFinite, allFinite_eq, List.all_eq_true]
    exact fun v hv => (h v hv).isFinite

@[simp] theorem sayable_obj {entries : List (String × Value)} :
    Sayable (.obj entries) ↔ ∀ e ∈ entries, Sayable e.2 := by
  constructor
  · rintro ⟨hj, hf⟩ e he
    rw [isFinite, entriesFinite_eq, List.all_eq_true] at hf
    exact ⟨isJson_obj.mp hj e he, hf e he⟩
  · intro h
    refine ⟨.obj fun e he => (h e he).isJson, ?_⟩
    rw [isFinite, entriesFinite_eq, List.all_eq_true]
    exact fun e he => (h e he).isFinite

@[simp] theorem sayable_texts (ss : List String) : Sayable (.texts ss) := by
  simp [texts]

/-- What there is room for, or that there is none. -/
def roomFault (fits : Bool) : Option JsonFault :=
  if fits then none else some .tooDeep

theorem roomFault_or (a b : Bool) : (roomFault a).or (roomFault b) = roomFault (a && b) := by
  cases a <;> cases b <;> rfl

theorem faultInAll?_eq {room : Nat} {vs : List Value}
    (h : ∀ v ∈ vs, faultIn? room v = roomFault (v.depth ≤ room)) :
    faultInAll? room vs = roomFault (depthAll vs ≤ room) := by
  induction vs with
  | nil => rfl
  | cons v vs ih =>
    rw [List.forall_mem_cons] at h
    rw [faultInAll?, h.1, ih h.2, roomFault_or, depthAll]
    congr 1
    simp only [Nat.max_le, Bool.decide_and]

theorem textKeyFault?_eq_none {k : String} : textKeyFault? k = none ↔ Text.isTorn k = false := by
  simp [textKeyFault?]

theorem faultInEntries?_eq {room : Nat} {es : List (String × Value)}
    (hkeys : ∀ e ∈ es, Text.isTorn e.1 = false)
    (h : ∀ e ∈ es, faultIn? room e.2 = roomFault (e.2.depth ≤ room)) :
    faultInEntries? room es = roomFault (depthEntries es ≤ room) := by
  induction es with
  | nil => rfl
  | cons e es ih =>
    obtain ⟨k, v⟩ := e
    rw [List.forall_mem_cons] at h hkeys
    rw [faultInEntries?, textKeyFault?_eq_none.mpr hkeys.1, Option.none_or, h.1, ih hkeys.2 h.2,
      roomFault_or, depthEntries]
    congr 1
    simp only [Nat.max_le, Bool.decide_and]

/-- JSON can say a value that it has said, and whose keys have no halves of pairs, just when there
is room for it. -/
theorem faultIn?_of_isJson {v : Value} (h : v.IsJson) (hkeys : v.keysWhole = true) (room : Nat) :
    faultIn? room v = roomFault (v.depth ≤ room) := by
  induction h generalizing room with
  | @list items _ ih =>
    cases room with
    | zero => simp [faultIn?, guarded, roomFault, depth]
    | succ room =>
      rw [faultIn?, guarded, faultInAll?_eq fun v hv => ih v hv (passes_list.mp hkeys v hv) room]
      simp [depth]
  | @obj entries _ ih =>
    cases room with
    | zero => simp [faultIn?, guarded, roomFault, depth]
    | succ room =>
      have hall := passes_obj.mp hkeys
      rw [faultIn?, guarded, faultInEntries?_eq (fun e he => by simpa using (hall e he).1)
        fun e he => ih e he (hall e he).2 room]
      simp [depth]
  | _ => cases room <;> simp [faultIn?, guarded, roomFault, depth]

end SchemaIntents.Value
