import Mathlib.Data.List.TakeWhile
import SchemaIntents.Proofs.Json.Scalars

/-! An indented JSON text is read as the value that it was written for. Floats are left out: nothing
is said here of their digits. -/
namespace SchemaIntents.Json

variable {rest : List Char}

mutual

/-- Whether a value is read again from its text where so many lists and mappings may stand inside
each other: its numbers are whole and not too long, and no key stands twice in a mapping. -/
def isReadable : Nat → Value → Bool
  | _, .null => true
  | _, .bool _ => true
  | _, .int n => (Nat.toDigits 10 n.natAbs).length ≤ digitLimit
  | _, .str _ => true
  | room + 1, .list items => allReadable room items
  | room + 1, .obj entries => decide (entries.map (·.1)).Nodup && entriesReadable room entries
  | _, _ => false

def allReadable : Nat → List Value → Bool
  | _, [] => true
  | room, v :: vs => isReadable room v && allReadable room vs

def entriesReadable : Nat → List (String × Value) → Bool
  | _, [] => true
  | room, (_, v) :: rest => isReadable room v && entriesReadable room rest

end

theorem skipSpace_cons {c : Char} (hc : isSpace c = false) (cs : List Char) :
    skipSpace (c :: cs) = c :: cs := by
  simp [skipSpace, hc]

theorem skipSpace_newline (depth : Nat) (cs : List Char) :
    skipSpace ((newline depth).toList ++ cs) = skipSpace cs := by
  have blank : ∀ c ∈ (newline depth).toList, isSpace c = true := by
    simp only [newline, String.toList_ofList, List.forall_mem_cons, List.mem_replicate]
    exact ⟨by decide, fun c hc => hc.2 ▸ by decide⟩
  exact List.dropWhile_append_of_pos blank

/-- A text that starts with no blank, no end of a list or mapping, and no mark of its byte order. -/
def Opens (cs : List Char) : Prop :=
  ∃ c rest, cs = c :: rest ∧ isSpace c = false ∧ c ∉ [']', '\x7d', '\uFEFF']

theorem Opens.append {cs : List Char} (h : Opens cs) (rest : List Char) : Opens (cs ++ rest) := by
  obtain ⟨c, cs, rfl, hc⟩ := h
  exact ⟨c, cs ++ rest, rfl, hc⟩

theorem Opens.skipSpace {cs : List Char} (h : Opens cs) : skipSpace cs = cs := by
  obtain ⟨c, cs, rfl, hc, -⟩ := h
  simp [Json.skipSpace, hc]

theorem opens_block {o c : String} (first : Char) (ho : o.toList = [first])
    (hf : isSpace first = false) (hne : first ∉ [']', '\x7d', '\uFEFF']) (depth : Nat)
      (parts : List String) :
    Opens (block o c depth parts).toList := by
  obtain ⟨inner, hi⟩ := exists_block o c depth parts
  exact ⟨first, inner.toList ++ c.toList, by simp [hi, ho], hf, hne⟩

theorem isSpace_of_isDigit {c : Char} (h : c.isDigit = true) :
    isSpace c = false ∧ c ∉ [']', '\x7d', '\uFEFF'] := by
  have other {d : Char} (hd : d.isDigit = false) : c ≠ d := by
    rintro rfl
    simp [h] at hd
  constructor
  · simp only [isSpace, Bool.or_eq_false_iff, beq_eq_false_iff_ne]
    exact ⟨⟨⟨other (by decide), other (by decide)⟩, other (by decide)⟩, other (by decide)⟩
  · simp only [List.mem_cons, List.not_mem_nil, or_false, not_or]
    exact ⟨other (by decide), other (by decide), other (by decide)⟩

theorem opens_indentedAt {room : Nat} {v : Value} (h : isReadable room v = true) (depth : Nat) :
    Opens (indentedAt depth v).toList := by
  cases v with
  | null => exact ⟨'n', "ull".toList, (by decide : "null".toList = _), by decide, by decide⟩
  | bool b =>
    cases b with
    | true => exact ⟨'t', "rue".toList, (by decide : "true".toList = _), by decide, by decide⟩
    | false => exact ⟨'f', "alse".toList, (by decide : "false".toList = _), by decide, by decide⟩
  | int n =>
    obtain ⟨c, cs, hd, digits, -⟩ := toDigits_eq_cons n.natAbs
    rw [indentedAt, toList_toString, hd]
    split
    · exact ⟨c, cs, rfl, isSpace_of_isDigit (digits c List.mem_cons_self)⟩
    · exact ⟨'-', c :: cs, rfl, by decide, by decide⟩
  | str s =>
    refine ⟨'"', s.toList.flatMap escape ++ ['"'], ?_, by decide, by decide⟩
    simp [indentedAt, quoted]
  | list items => exact opens_block '[' (by decide) (by decide) (by decide) depth _
  | obj entries => exact opens_block '\x7b' (by decide) (by decide) (by decide) depth _
  | _ => cases room <;> simp [isReadable] at h

/-- Parts with commas between them, each on a line of its own. -/
def separated (depth : Nat) (parts : List String) : List Char :=
  (String.intercalate ("," ++ newline depth) parts).toList

theorem separated_singleton (depth : Nat) (p : String) : separated depth [p] = p.toList := by
  simp [separated]

theorem separated_cons (depth : Nat) (p q : String) (parts : List String) :
    separated depth (p :: q :: parts) =
      p.toList ++ ',' :: ((newline depth).toList ++ separated depth (q :: parts)) := by
  simp [separated, String.intercalate_cons_cons, String.toList_append]

theorem toList_block {o c : String} {depth : Nat} {parts : List String} (h : parts ≠ []) :
    (block o c depth parts).toList = o.toList ++ ((newline (depth + 1)).toList ++
      (separated (depth + 1) parts ++ ((newline depth).toList ++ c.toList))) := by
  rw [block, if_neg (by simpa using h)]
  simp [separated, String.toList_append]

theorem put_of_not_mem {k : String} {v : Value} {es : List (String × Value)}
    (h : k ∉ es.map (·.1)) : Value.put k v es = es ++ [(k, v)] := by
  induction es with
  | nil => rfl
  | cons e es ih =>
    rw [List.map_cons, List.mem_cons, not_or] at h
    rw [Value.put, if_neg (Ne.symm h.1), ih h.2, List.cons_append]

variable {fuel room depth : Nat}

theorem readValue_emptyList : readValue (fuel + 1) (room + 1)
    ((indentedAt depth (.list [])).toList ++ rest) = .ok (.list [], rest) := by
  have hclose : isSpace ']' = false := by decide
  simp [indentedAt, indentedItems, block, readValue, skipSpace_cons hclose]

theorem readValue_emptyObj : readValue (fuel + 1) (room + 1)
    ((indentedAt depth (.obj [])).toList ++ rest) = .ok (.obj [], rest) := by
  have hclose : isSpace '\x7d' = false := by decide
  simp [indentedAt, indentedEntries, block, readValue, skipSpace_cons hclose]

theorem readValue_list {items : List Char} (h : Opens items) :
    readValue (fuel + 1) (room + 1) ('[' :: ((newline depth).toList ++ items)) =
      readItems fuel room [] items := by
  obtain ⟨c, cs, rfl, hc, hne⟩ := h
  have hclose : c ≠ ']' := fun he => hne (by simp [he])
  simp [readValue, skipSpace_newline, skipSpace_cons hc, hclose]

theorem readValue_obj {entries : List Char} (h : Opens entries) :
    readValue (fuel + 1) (room + 1) ('\x7b' :: ((newline depth).toList ++ entries)) =
      readEntries fuel room [] entries := by
  obtain ⟨c, cs, rfl, hc, hne⟩ := h
  have hclose : c ≠ '\x7d' := fun he => hne (by simp [he])
  simp [readValue, skipSpace_newline, skipSpace_cons hc, hclose]

theorem skipSpace_close (depth : Nat) {c : Char} (hc : isSpace c = false) (rest : List Char) :
    skipSpace ((newline depth).toList ++ c :: rest) = c :: rest := by
  rw [skipSpace_newline, skipSpace_cons hc]

theorem ends_newline (depth : Nat) (rest : List Char) : Ends ((newline depth).toList ++ rest) := by
  rw [newline, String.toList_ofList, List.cons_append]
  exact ends_cons (by decide) _

theorem opens_indentedItems {vs : List Value} (h : allReadable room vs = true) (hne : vs ≠ [])
    (depth : Nat) : Opens (separated depth (indentedItems depth vs)) := by
  cases vs with
  | nil => exact absurd rfl hne
  | cons v vs =>
    rw [allReadable, Bool.and_eq_true] at h
    have hv := opens_indentedAt h.1 depth
    cases vs with
    | nil => simpa only [indentedItems, separated_singleton] using hv
    | cons u us => simpa only [indentedItems, separated_cons] using hv.append _

theorem toList_entry (k : String) (v : Value) (depth : Nat) :
    (quoted k ++ ": " ++ indentedAt depth v).toList = '"' :: (k.toList.flatMap escape ++
      '"' :: ':' :: ' ' :: (indentedAt depth v).toList) := by
  simp [quoted]

theorem opens_indentedEntries {es : List (String × Value)} (hne : es ≠ []) (depth : Nat) :
    Opens (separated depth (indentedEntries depth es)) := by
  cases es with
  | nil => exact absurd rfl hne
  | cons e es =>
    have he : Opens (quoted e.1 ++ ": " ++ indentedAt depth e.2).toList :=
      ⟨'"', _, toList_entry e.1 e.2 depth, by decide, by decide⟩
    cases es with
    | nil => simpa only [indentedEntries, separated_singleton] using he
    | cons f fs => simpa only [indentedEntries, separated_cons] using he.append _

/-- With so much fuel everything is read to its end: a value, and what is left of a list or a
mapping. -/
structure Rereads (fuel : Nat) : Prop where
  value : ∀ {v room rest} (depth : Nat), isReadable room v = true → Ends rest →
    2 * (indentedAt depth v).toList.length < fuel →
    readValue fuel room ((indentedAt depth v).toList ++ rest) = .ok (v, rest)
  items : ∀ {vs room} (depth outer : Nat) (before : List Value) (rest : List Char), vs ≠ [] →
    allReadable room vs = true → 2 * (separated depth (indentedItems depth vs)).length + 1 < fuel →
    readItems fuel room before (separated depth (indentedItems depth vs) ++
      ((newline outer).toList ++ ']' :: rest)) = .ok (.list (before.reverse ++ vs), rest)
  entries : ∀ {es room} (depth outer : Nat) (before : List (String × Value)) (rest : List Char),
    es ≠ [] → ((before ++ es).map (·.1)).Nodup → entriesReadable room es = true →
    2 * (separated depth (indentedEntries depth es)).length + 1 < fuel →
    readEntries fuel room before (separated depth (indentedEntries depth es) ++
      ((newline outer).toList ++ '\x7d' :: rest)) = .ok (.obj (before ++ es), rest)

namespace Rereads

variable {v : Value} {vs : List Value} {es : List (String × Value)}

/-- The items of a list are read one by one. -/
theorem items_succ (ih : Rereads fuel) (outer : Nat) (before : List Value) (hne : vs ≠ [])
    (h : allReadable room vs = true)
    (hfuel : 2 * (separated depth (indentedItems depth vs)).length + 1 < fuel + 1) :
    readItems (fuel + 1) room before (separated depth (indentedItems depth vs) ++
      ((newline outer).toList ++ ']' :: rest)) = .ok (.list (before.reverse ++ vs), rest) := by
  cases vs with
  | nil => exact absurd rfl hne
  | cons v vs =>
    rw [allReadable, Bool.and_eq_true] at h
    cases vs with
    | nil =>
      rw [indentedItems, indentedItems, separated_singleton] at hfuel ⊢
      rw [readItems, ih.value depth h.1 (ends_newline outer _) (by omega)]
      simp [bind, Except.bind, skipSpace_close outer (c := ']') (by decide), pure, Except.pure]
    | cons u us =>
      have hparts : separated depth (indentedItems depth (v :: u :: us)) =
          (indentedAt depth v).toList ++ ',' ::
            ((newline depth).toList ++ separated depth (indentedItems depth (u :: us))) :=
        separated_cons depth _ _ _
      have hopens := opens_indentedItems h.2 (List.cons_ne_nil u us) depth
      have hcomma : isSpace ',' = false := by decide
      rw [hparts] at hfuel ⊢
      simp only [List.length_append, List.length_cons] at hfuel
      rw [List.append_assoc, List.cons_append, List.append_assoc, readItems,
        ih.value depth h.1 (ends_cons (by decide) _) (by omega)]
      have hrest := ih.items depth outer (v :: before) rest (List.cons_ne_nil u us) h.2 (by omega)
      simp [bind, Except.bind, skipSpace_cons hcomma, skipSpace_newline,
        (hopens.append _).skipSpace, hrest]

/-- The entries of a mapping are read one by one, each at its own key. -/
theorem entries_succ (ih : Rereads fuel) (outer : Nat)
    (before : List (String × Value)) (hne : es ≠ [])
    (hkeys : ((before ++ es).map (·.1)).Nodup) (h : entriesReadable room es = true)
    (hfuel : 2 * (separated depth (indentedEntries depth es)).length + 1 < fuel + 1) :
    readEntries (fuel + 1) room before (separated depth (indentedEntries depth es) ++
      ((newline outer).toList ++ '\x7d' :: rest)) = .ok (.obj (before ++ es), rest) := by
  cases es with
  | nil => exact absurd rfl hne
  | cons e es =>
    obtain ⟨k, v⟩ := e
    rw [entriesReadable, Bool.and_eq_true] at h
    have hnew : k ∉ before.map (·.1) := by
      rw [List.map_append, List.nodup_append] at hkeys
      exact fun hk => hkeys.2.2 k hk k List.mem_cons_self rfl
    have hcolon : isSpace ':' = false := by decide
    have hblank (cs : List Char) : skipSpace (' ' :: cs) = skipSpace cs := rfl
    have hopens := opens_indentedAt h.1 depth
    cases es with
    | nil =>
      rw [indentedEntries, indentedEntries, separated_singleton] at hfuel ⊢
      rw [toList_entry] at hfuel ⊢
      simp only [List.length_append, List.length_cons] at hfuel
      simp only [List.cons_append, List.append_assoc]
      rw [readEntries]
      simp [readString_quoted, bind, Except.bind, skipSpace_cons hcolon, hblank,
        (hopens.append _).skipSpace, ih.value depth h.1 (ends_newline outer _) (by omega),
        skipSpace_close outer (c := '\x7d') (by decide), pure, Except.pure, put_of_not_mem hnew]
    | cons e es =>
      have hparts : separated depth (indentedEntries depth ((k, v) :: e :: es)) =
          (quoted k ++ ": " ++ indentedAt depth v).toList ++ ',' ::
            ((newline depth).toList ++ separated depth (indentedEntries depth (e :: es))) :=
        separated_cons depth _ _ _
      have hcomma : isSpace ',' = false := by decide
      have hends (cs : List Char) : Ends (',' :: cs) := ends_cons (by decide) cs
      have hnext := opens_indentedEntries (List.cons_ne_nil e es) depth
      rw [hparts, toList_entry] at hfuel ⊢
      simp only [List.length_append, List.length_cons] at hfuel
      simp only [List.cons_append, List.append_assoc]
      have hrest := ih.entries depth outer (before ++ [(k, v)]) rest (List.cons_ne_nil e es)
        (by simpa using hkeys) h.2 (by omega)
      rw [readEntries]
      simp [readString_quoted, bind, Except.bind, skipSpace_cons hcolon, hblank,
        (hopens.append _).skipSpace, ih.value depth h.1 (hends _) (by omega),
        skipSpace_cons hcomma, skipSpace_newline, (hnext.append _).skipSpace,
          put_of_not_mem hnew, hrest]

/-- A list is read with its items. -/
theorem list_succ (ih : Rereads fuel) (hne : vs ≠ []) (h : allReadable room vs = true)
    (hfuel : 2 * (indentedAt depth (.list vs)).toList.length < fuel + 1) :
    readValue (fuel + 1) (room + 1) ((indentedAt depth (.list vs)).toList ++ rest) =
      .ok (.list vs, rest) := by
  have hparts : indentedItems (depth + 1) vs ≠ [] := by
    cases vs with
    | nil => exact absurd rfl hne
    | cons => simp [indentedItems]
  have htext : (indentedAt depth (.list vs)).toList = '[' :: ((newline (depth + 1)).toList ++
      (separated (depth + 1) (indentedItems (depth + 1) vs) ++
        ((newline depth).toList ++ [']']))) := toList_block hparts
  rw [htext] at hfuel ⊢
  simp only [List.length_cons, List.length_append] at hfuel
  have hopens := opens_indentedItems h hne (depth + 1)
  simp only [List.cons_append, List.append_assoc]
  rw [readValue_list (hopens.append _)]
  exact ih.items (depth + 1) depth [] rest hne h (by omega)

/-- A mapping is read with its entries. -/
theorem obj_succ (ih : Rereads fuel) (hne : es ≠ []) (hkeys : (es.map (·.1)).Nodup)
    (h : entriesReadable room es = true)
    (hfuel : 2 * (indentedAt depth (.obj es)).toList.length < fuel + 1) :
    readValue (fuel + 1) (room + 1) ((indentedAt depth (.obj es)).toList ++ rest) =
      .ok (.obj es, rest) := by
  have hparts : indentedEntries (depth + 1) es ≠ [] := by
    cases es with
    | nil => exact absurd rfl hne
    | cons => simp [indentedEntries]
  have htext : (indentedAt depth (.obj es)).toList = '\x7b' :: ((newline (depth + 1)).toList ++
      (separated (depth + 1) (indentedEntries (depth + 1) es) ++
        ((newline depth).toList ++ ['\x7d']))) := toList_block hparts
  rw [htext] at hfuel ⊢
  simp only [List.length_cons, List.length_append] at hfuel
  have hopens := opens_indentedEntries hne (depth + 1)
  simp only [List.cons_append, List.append_assoc]
  rw [readValue_obj (hopens.append _)]
  exact ih.entries (depth + 1) depth [] rest hne hkeys h (by omega)

/-- A value is read with what it holds. -/
theorem value_succ (ih : Rereads fuel) (h : isReadable room v = true) (he : Ends rest)
    (hfuel : 2 * (indentedAt depth v).toList.length < fuel + 1) :
    readValue (fuel + 1) room ((indentedAt depth v).toList ++ rest) = .ok (v, rest) := by
  cases v with
  | null => exact readValue_null
  | bool b => exact readValue_bool b
  | int n => exact readValue_int (by simpa [isReadable] using h) he
  | str s => exact readValue_str s
  | list items =>
    cases room with
    | zero => simp [isReadable] at h
    | succ room =>
      rw [isReadable] at h
      by_cases hi : items = []
      · subst hi
        exact readValue_emptyList
      · exact ih.list_succ hi h hfuel
  | obj entries =>
    cases room with
    | zero => simp [isReadable] at h
    | succ room =>
      rw [isReadable, Bool.and_eq_true, decide_eq_true_eq] at h
      by_cases hi : entries = []
      · subst hi
        exact readValue_emptyObj
      · exact ih.obj_succ hi h.1 h.2 hfuel
  | _ => cases room <;> simp [isReadable] at h

end Rereads

theorem rereads (fuel : Nat) : Rereads fuel := by
  induction fuel with
  | zero => constructor <;> intros <;> omega
  | succ fuel ih =>
    exact {
      value := fun _ h he hfuel => ih.value_succ h he hfuel
      items := fun _ outer before _ hne h hfuel => ih.items_succ outer before hne h hfuel
      entries := fun _ outer before _ hne hkeys h hfuel =>
        ih.entries_succ outer before hne hkeys h hfuel }

/-- The text of a value is read as the value, whatever blanks follow it. -/
theorem readWhole_indented {v : Value} (h : isReadable depthLimit v = true) {blanks : List Char}
    (he : Ends blanks) (hb : ∀ c ∈ blanks, isSpace c = true) :
    readWhole ((indented v).toList ++ blanks) = .ok v := by
  have hvalue := (rereads (2 * ((indented v).toList ++ blanks).length + 2)).value 0 h he
    (by rw [List.length_append, indented]; omega)
  have hrest : skipSpace blanks = [] := List.dropWhile_eq_nil_iff.mpr hb
  rw [indented] at hvalue ⊢
  obtain ⟨c, cs, hc, hspace, hmark⟩ := opens_indentedAt h 0
  have hc' : c ≠ '\uFEFF' := fun he => hmark (by simp [he])
  rw [hc, List.cons_append] at hvalue ⊢
  rw [readWhole, skipSpace_cons hspace, hvalue]
  simp [hc', hrest, bind, Except.bind, pure, Except.pure]

theorem read_indented {v : Value} (h : isReadable depthLimit v = true) :
    read (indented v) = .ok v := by
  have hwhole := readWhole_indented h ends_nil (by simp)
  rw [List.append_nil] at hwhole
  simp only [read, hwhole]

end SchemaIntents.Json
