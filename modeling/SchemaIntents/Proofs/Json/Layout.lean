import SchemaIntents.Json.Indented
import SchemaIntents.Proofs.Decimal.Text
import SchemaIntents.Text.Blank
import SchemaIntents.Text.Utf8

/-! Indented JSON texts hold no controls but line breaks, and a list stands between its brackets. -/
namespace SchemaIntents.Json

/-- A character that is shown as it is, or a line break. -/
def IsShown (c : Char) : Prop :=
  c = '\n' ∨ 0x20 ≤ c.toNat

instance (c : Char) : Decidable (IsShown c) :=
  inferInstanceAs (Decidable (_ ∨ _))

/-- All characters of a text are shown. -/
def Shown (s : String) : Prop :=
  ∀ c ∈ s.toList, IsShown c

instance (s : String) : Decidable (Shown s) :=
  List.decidableBAll IsShown s.toList

theorem isShown_of_isDigit {c : Char} (h : c.isDigit = true) : IsShown c := by
  simp only [Char.isDigit, Bool.and_eq_true, decide_eq_true_eq] at h
  have least : 48 ≤ c.toNat := h.1
  exact .inr (by omega)

@[simp] theorem shown_append {s t : String} : Shown (s ++ t) ↔ Shown s ∧ Shown t := by
  simp [Shown, or_imp, forall_and]

@[simp] theorem shown_ofList {cs : List Char} : Shown (String.ofList cs) ↔ ∀ c ∈ cs, IsShown c := by
  simp [Shown]

theorem shown_intercalate {separator : String} {parts : List String} (hs : Shown separator)
    (hp : ∀ p ∈ parts, Shown p) : Shown (String.intercalate separator parts) := by
  induction parts with
  | nil => simp [Shown]
  | cons p parts ih =>
    rw [List.forall_mem_cons] at hp
    cases parts with
    | nil => simpa using hp.1
    | cons q parts =>
      rw [String.intercalate_cons_cons, shown_append, shown_append]
      exact ⟨⟨hp.1, hs⟩, ih hp.2⟩

theorem shown_toString (n : Int) : Shown (toString n) := by
  have natural (m : Nat) : Shown m.repr := by
    rw [Nat.repr_eq_ofList_toDigits, shown_ofList]
    exact fun c hc => isShown_of_isDigit (Nat.isDigit_of_mem_toDigits (by decide) (by decide) hc)
  rw [Int.toString_eq_repr, Int.repr_eq_if]
  split
  · exact natural _
  · exact shown_append.mpr ⟨by decide, natural _⟩

theorem shown_number (x : Binary64) : Shown (number x) := by
  unfold number Binary64.text
  split
  · decide
  split
  · split <;> decide
  · intro c hc
    rcases Binary64.mem_finiteText hc with hc | hc
    · exact isShown_of_isDigit hc
    · simp only [List.mem_cons, List.not_mem_nil, or_false] at hc
      rcases hc with rfl | rfl | rfl | rfl <;> decide

theorem shown_hex : ∀ n < 0x20, Shown (String.ofList (Text.Quoted.hex 4 n)) := by
  decide

theorem isShown_of_mem_escape (c : Char) : ∀ d ∈ escape c, IsShown d := by
  unfold escape
  split_ifs with _ _ _ _ _ _ _ hc
  any_goals
    apply shown_ofList.mp
    decide
  · have slash : IsShown '\\' := by decide
    have letter : IsShown 'u' := by decide
    simp only [List.forall_mem_cons]
    exact ⟨slash, letter, shown_ofList.mp (shown_hex _ hc)⟩
  · rw [List.forall_mem_singleton]
    exact .inr (by omega)

theorem shown_quoted (s : String) : Shown (quoted s) := by
  have quote : IsShown '"' := by decide
  rw [quoted, shown_ofList]
  simp only [List.forall_mem_cons, List.forall_mem_append, List.mem_flatMap]
  exact ⟨⟨quote, fun d ⟨c, _, hd⟩ => isShown_of_mem_escape c d hd⟩, quote, by simp⟩

theorem shown_newline (depth : Nat) : Shown (newline depth) := by
  rw [newline, shown_ofList, List.forall_mem_cons]
  refine ⟨by decide, fun c hc => ?_⟩
  rw [(List.mem_replicate.mp hc).2]
  decide

theorem shown_block {opening closing : String} {parts : List String} (depth : Nat)
    (ho : Shown opening) (hc : Shown closing) (hp : ∀ p ∈ parts, Shown p) :
    Shown (block opening closing depth parts) := by
  unfold block
  split
  · exact shown_append.mpr ⟨ho, hc⟩
  · have comma : Shown "," := by decide
    have separator := shown_append.mpr ⟨comma, shown_newline (depth + 1)⟩
    simp only [shown_append]
    exact ⟨⟨⟨⟨ho, shown_newline _⟩, shown_intercalate separator hp⟩, shown_newline _⟩, hc⟩

mutual

theorem shown_indentedAt (depth : Nat) : ∀ v, Shown (indentedAt depth v)
  | .null => (by decide : Shown "null")
  | .bool true => (by decide : Shown "true")
  | .bool false => (by decide : Shown "false")
  | .int n => shown_toString n
  | .float x => shown_number x
  | .str s => shown_quoted s
  | .list items => shown_block depth (by decide) (by decide) (shown_indentedItems (depth + 1) items)
  | .pair k v => by
    refine shown_block depth (by decide) (by decide) ?_
    simp only [List.forall_mem_cons]
    exact ⟨shown_indentedAt (depth + 1) k, shown_indentedAt (depth + 1) v, by simp⟩
  | .obj entries =>
    shown_block depth (by decide) (by decide) (shown_indentedEntries (depth + 1) entries)
  | .map entries =>
    shown_block depth (by decide) (by decide) (shown_indentedPairs (depth + 1) entries)
  | .date d => shown_quoted (Value.plain (.date d))
  | .dateTime t => shown_quoted (Value.plain (.dateTime t))
  | .bytes bs => shown_quoted (Value.plain (.bytes bs))
  | .set items => shown_quoted (Value.plain (.set items))
  | .loop v => shown_quoted (Value.plain (.loop v))

theorem shown_indentedItems (depth : Nat) : ∀ vs, ∀ p ∈ indentedItems depth vs, Shown p
  | [] => by simp [indentedItems]
  | v :: vs => by
    rw [indentedItems, List.forall_mem_cons]
    exact ⟨shown_indentedAt depth v, shown_indentedItems depth vs⟩

theorem shown_indentedEntries (depth : Nat) : ∀ es, ∀ p ∈ indentedEntries depth es, Shown p
  | [] => by simp [indentedEntries]
  | (k, v) :: rest => by
    have colon : Shown ": " := by decide
    rw [indentedEntries, List.forall_mem_cons, shown_append, shown_append]
    exact ⟨⟨⟨shown_quoted k, colon⟩, shown_indentedAt depth v⟩, shown_indentedEntries depth rest⟩

theorem shown_indentedPairs (depth : Nat) : ∀ es, ∀ p ∈ indentedPairs depth es, Shown p
  | [] => by simp [indentedPairs]
  | (k, v) :: rest => by
    have colon : Shown ": " := by decide
    rw [indentedPairs, List.forall_mem_cons, shown_append, shown_append]
    exact ⟨⟨⟨shown_quoted _, colon⟩, shown_indentedAt depth v⟩, shown_indentedPairs depth rest⟩

end

/-- The indented text of a value holds no controls but line breaks. -/
theorem shown_indented (v : Value) : Shown (indented v) :=
  shown_indentedAt 0 v

/-- A text without returns keeps its line breaks. -/
theorem unifyBreaks_eq_self {cs : List Char} (h : ∀ c ∈ cs, IsShown c) :
    Text.Utf8.unifyBreaks cs = cs := by
  fun_induction Text.Utf8.unifyBreaks cs with
  | case1 rest _ => exact absurd (h '\r' (by simp)) (by decide)
  | case2 rest _ _ => exact absurd (h '\r' (by simp)) (by decide)
  | case3 c rest _ _ ih => rw [ih fun d hd => h d (List.mem_cons_of_mem c hd)]
  | case4 => rfl

theorem exists_block (opening closing : String) (depth : Nat) (parts : List String) :
    ∃ inner, block opening closing depth parts = opening ++ inner ++ closing := by
  unfold block
  split
  · exact ⟨"", by simp⟩
  · exact ⟨newline (depth + 1) ++ String.intercalate ("," ++ newline (depth + 1)) parts ++
      newline depth, by simp only [String.append_assoc]⟩

theorem exists_indented_list (vs : List Value) :
    ∃ inner, indented (.list vs) = "[" ++ inner ++ "]" :=
  exists_block "[" "]" 0 (indentedItems 1 vs)

/-- Around a list of values there are no blanks. -/
theorem trimWith_indented_list (vs : List Value) :
    Text.trimWith Text.isBlank (indented (.list vs) ++ "\n").toList =
      (indented (.list vs)).toList := by
  obtain ⟨inner, h⟩ := exists_indented_list vs
  have opening : Text.isBlank '[' = false := by decide
  have closing : Text.isBlank ']' = false := by decide
  have line : Text.isBlank '\n' = true := by decide
  rw [h]
  simp [Text.trimWith, opening, closing, line]

end SchemaIntents.Json
