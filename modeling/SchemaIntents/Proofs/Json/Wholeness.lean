import SchemaIntents.Proofs.Json.Canonical
import SchemaIntents.Proofs.Json.Layout

/-! A JSON text has halves of pairs just where the value has that it says, be it canonical or
indented: all else in it are characters below the marks. -/
namespace SchemaIntents.Json

open Text (holdsOn holdsOn_append holdsOn_append_append holdsOn_cons)

/-- Characters that are escaped hold a text just where they did before. -/
theorem holdsOn_flatMap_escape (marked : Bool) (cs : List Char) :
    holdsOn marked (cs.flatMap escape) = holdsOn marked cs := by
  have hexes : ∀ n < 0x20, (Text.Quoted.hex 4 n).all (·.toNat < 0xE000) = true := by decide
  have escaped (c : Char) : escape c = [c] ∨
      c.toNat < 0xE000 ∧ escape c ≠ [] ∧ ∀ d ∈ escape c, d.toNat < 0xE000 := by
    unfold escape
    split_ifs with h₁ h₂ h₃ h₄ h₅ h₆ h₇ h₈
    · exact .inr ⟨by rw [h₁]; decide, by simp, by simp⟩
    · exact .inr ⟨by rw [h₂]; decide, by simp, by simp⟩
    · exact .inr ⟨by rw [h₃]; decide, by simp, by simp⟩
    · exact .inr ⟨by rw [h₄]; decide, by simp, by simp⟩
    · exact .inr ⟨by rw [h₅]; decide, by simp, by simp⟩
    · exact .inr ⟨by rw [h₆]; decide, by simp, by simp⟩
    · exact .inr ⟨by rw [h₇]; decide, by simp, by simp⟩
    · have marks : ('\\').toNat < 0xE000 ∧ ('u').toNat < 0xE000 := by decide
      refine .inr ⟨by omega, by simp, ?_⟩
      simp only [List.forall_mem_cons]
      exact ⟨marks.1, marks.2, by simpa using hexes _ h₈⟩
    · exact .inl rfl
  induction cs generalizing marked with
  | nil => rfl
  | cons c cs ih =>
    rw [List.flatMap_cons]
    rcases escaped c with hc | ⟨hc, hne, hall⟩
    · cases marked <;> simp [hc, holdsOn, ih]
    · rw [holdsOn_append hall hne, holdsOn_cons hc, ih]

theorem holdsOn_quoted (s : String) (ds : List Char) :
    holdsOn false ((quoted s).toList ++ ds) = (holdsOn false s.toList && holdsOn false ds) := by
  have quote : ('"').toNat < 0xE000 := by decide
  rw [quoted, String.toList_ofList, List.append_assoc, List.cons_append, holdsOn_cons quote,
    holdsOn_append_append (by simp) (by simp), holdsOn_flatMap_escape]
  rfl

/-- Texts between separators hold a text just where all of them do. -/
theorem holdsOn_intercalate {separator : List Char} {parts : List (List Char)}
    (hs : ∀ c ∈ separator, c.toNat < 0xE000) (hne : separator ≠ []) :
    holdsOn false (separator.intercalate parts) = parts.all (holdsOn false) := by
  induction parts with
  | nil => rfl
  | cons p parts ih =>
    cases parts with
    | nil => simp
    | cons q parts =>
      rw [List.intercalate_cons_cons, List.append_assoc, holdsOn_append_append hs hne, ih,
        List.all_cons, List.all_cons, List.all_cons]

theorem lt_of_isNumeric {c : Char} (h : IsNumeric c) : c.toNat < 0xE000 := by
  rcases h with h | h
  · simp only [Char.isDigit, Bool.and_eq_true, decide_eq_true_eq] at h
    have most : c.toNat ≤ 57 := h.2
    omega
  · have marks : ['-', '+', '.', 'e'].all (·.toNat < 0xE000) = true := by decide
    simpa using List.all_eq_true.mp marks c h

theorem holdsOn_toString (n : Int) : holdsOn false (toString n).toList = true :=
  Text.holdsOn_of_forall fun _ hc => lt_of_isNumeric (isNumeric_of_mem_toString hc)

theorem holdsOn_number (x : Binary64) : holdsOn false (number x).toList = true := by
  unfold number Binary64.text
  split
  · decide
  split
  · split <;> decide
  · exact Text.holdsOn_of_forall fun c hc => lt_of_isNumeric (Binary64.mem_finiteText hc)

/-- The canonical text of a value has halves of pairs just where a text in it has, a key or
another. -/
theorem holdsOn_canonical {v : Value} (hv : v.IsJson) :
    holdsOn false (canonical v).toList = true ↔ v.isWhole = true := by
  induction hv with
  | null => exact iff_of_true (by decide) rfl
  | bool b => cases b <;> exact iff_of_true (by decide) rfl
  | int n => exact iff_of_true (holdsOn_toString n) rfl
  | float x => exact iff_of_true (holdsOn_number x) rfl
  | str s =>
    rw [canonical, Value.isWhole, Value.passes, Text.isSome_release?]
    simpa [holdsOn] using congrArg (· = true) (holdsOn_quoted s [])
  | @list items _ ih =>
    have marks : ∀ c ∈ ['[', ']'], c.toNat < 0xE000 := by simp
    simp only [List.forall_mem_cons] at marks
    rw [toList_canonical_list, holdsOn_cons marks.1,
      Text.holdsOn_append_cons marks.2.1, holdsOn_intercalate (by simp) (by simp),
      Value.isWhole_list, List.all_map]
    simpa [holdsOn] using forall₂_congr ih
  | @obj entries _ ih =>
    have marks : ∀ c ∈ ['\x7b', '\x7d', ':'], c.toNat < 0xE000 := by simp
    simp only [List.forall_mem_cons] at marks
    have entry : ∀ e ∈ entries, holdsOn false (entryText e) = true ↔
        (Text.release? e.1.toList).isSome = true ∧ e.2.isWhole = true := by
      intro e he
      rw [entryText, holdsOn_quoted, holdsOn_cons marks.2.2.1, ← ih e he, Text.isSome_release?]
      simp
    rw [toList_canonical_obj, holdsOn_cons marks.1, Text.holdsOn_append_cons marks.2.1,
      holdsOn_intercalate (by simp) (by simp), Value.isWhole_obj, List.all_map]
    simpa [holdsOn, (sortBy_perm entries).mem_iff] using forall₂_congr entry

theorem lt_of_mem_newline {depth : Nat} {c : Char} (h : c ∈ (newline depth).toList) :
    c.toNat < 0xE000 := by
  rw [newline, String.toList_ofList, List.mem_cons, List.mem_replicate] at h
  rcases h with rfl | ⟨-, rfl⟩ <;> decide

/-- A block holds a text just where all of its parts do. -/
theorem holdsOn_block {opening closing : String} (depth : Nat) (parts : List String)
    (ho : ∀ c ∈ opening.toList, c.toNat < 0xE000) (hc : ∀ c ∈ closing.toList, c.toNat < 0xE000) :
    holdsOn false (block opening closing depth parts).toList =
      parts.all (holdsOn false ·.toList) := by
  unfold block
  split
  · rename_i hnil
    rw [List.isEmpty_iff.mp hnil, String.toList_append, Text.holdsOn_of_forall]
    · rfl
    · exact List.forall_mem_append.mpr ⟨ho, hc⟩
  · have line (depth : Nat) : (newline depth).toList ≠ [] := by simp [newline]
    have before : ∀ c ∈ (opening ++ newline (depth + 1)).toList, c.toNat < 0xE000 := by
      rw [String.toList_append, List.forall_mem_append]
      exact ⟨ho, fun _ => lt_of_mem_newline⟩
    have after : ∀ c ∈ (newline depth ++ closing).toList, c.toNat < 0xE000 := by
      rw [String.toList_append, List.forall_mem_append]
      exact ⟨fun _ => lt_of_mem_newline, hc⟩
    have separator : ∀ c ∈ ("," ++ newline (depth + 1)).toList, c.toNat < 0xE000 := by
      rw [String.toList_append, List.forall_mem_append]
      exact ⟨by simp, fun _ => lt_of_mem_newline⟩
    have inner : holdsOn false (("," ++ newline (depth + 1)).toList.intercalate
        (parts.map String.toList)) = (parts.map String.toList).all (holdsOn false) :=
      holdsOn_intercalate separator (by simp)
    rw [String.append_assoc, String.toList_append, String.toList_append, List.append_assoc,
      holdsOn_append before (by simp [line]), ← List.append_nil (newline depth ++ closing).toList,
      holdsOn_append_append after (by simp [line]), String.toList_intercalate, inner, List.all_map]
    simp [holdsOn, Function.comp_def]

theorem indentedItems_eq (depth : Nat) (vs : List Value) :
    indentedItems depth vs = vs.map (indentedAt depth) := by
  induction vs with
  | nil => rfl
  | cons v vs ih => rw [indentedItems, ih, List.map_cons]

theorem indentedEntries_eq (depth : Nat) (es : List (String × Value)) :
    indentedEntries depth es = es.map fun e => quoted e.1 ++ ": " ++ indentedAt depth e.2 := by
  induction es with
  | nil => rfl
  | cons e es ih => rw [indentedEntries, ih, List.map_cons]

/-- The indented text of a value has halves of pairs just where a text in it has, a key or
another. -/
theorem holdsOn_indentedAt {v : Value} (hv : v.IsJson) (depth : Nat) :
    holdsOn false (indentedAt depth v).toList = true ↔ v.isWhole = true := by
  induction hv generalizing depth with
  | null => exact iff_of_true (by rw [indentedAt]; decide) rfl
  | bool b => cases b <;> exact iff_of_true (by rw [indentedAt]; decide) rfl
  | int n => exact iff_of_true (holdsOn_toString n) rfl
  | float x => exact iff_of_true (holdsOn_number x) rfl
  | str s =>
    rw [indentedAt, Value.isWhole, Value.passes, Text.isSome_release?]
    simpa [holdsOn] using congrArg (· = true) (holdsOn_quoted s [])
  | @list items _ ih =>
    rw [indentedAt, holdsOn_block _ _ (by simp) (by simp), indentedItems_eq, Value.isWhole_list,
      List.all_map]
    simpa using forall₂_congr fun v hv => ih v hv (depth + 1)
  | @obj entries _ ih =>
    have colon : ∀ c ∈ (": ").toList, c.toNat < 0xE000 := by simp
    have entry : ∀ e ∈ entries,
        holdsOn false (quoted e.1 ++ ": " ++ indentedAt (depth + 1) e.2).toList = true ↔
          (Text.release? e.1.toList).isSome = true ∧ e.2.isWhole = true := by
      intro e he
      rw [String.append_assoc, String.toList_append, holdsOn_quoted, String.toList_append,
        holdsOn_append colon (by simp), ← ih e he (depth + 1), Text.isSome_release?]
      simp
    rw [indentedAt, holdsOn_block _ _ (by simp) (by simp), indentedEntries_eq,
      Value.isWhole_obj, List.all_map]
    simpa using forall₂_congr entry

end SchemaIntents.Json
