import SchemaIntents.Proofs.Json.Ordering
import SchemaIntents.Proofs.Json.Tokens
import SchemaIntents.Proofs.Value.Json

/-! The canonical text of a value tells all of the value but the order in which the keys of its
mappings stand. -/
namespace SchemaIntents

namespace Value

/-- A value as JSON has it: its floats are finite, and no key stands twice in a mapping. -/
inductive Regular : Value → Prop
  | null : Regular .null
  | bool (b : Bool) : Regular (.bool b)
  | int (n : Int) : Regular (.int n)
  | float {x : Binary64} : x.isFinite = true → Regular (.float x)
  | str (s : String) : Regular (.str s)
  | list {items : List Value} : (∀ v ∈ items, Regular v) → Regular (.list items)
  | obj {entries : List (String × Value)} : (entries.map (·.1)).Nodup →
      (∀ e ∈ entries, Regular e.2) → Regular (.obj entries)

/-- Values that are equal up to the order in which the keys of mappings stand, at every depth.
Floats are equal where they are written alike. -/
inductive Reordered : Value → Value → Prop
  | null : Reordered .null .null
  | bool (b : Bool) : Reordered (.bool b) (.bool b)
  | int (n : Int) : Reordered (.int n) (.int n)
  | float {x y : Binary64} : Json.number x = Json.number y → Reordered (.float x) (.float y)
  | str (s : String) : Reordered (.str s) (.str s)
  | list {items items' : List Value} : items.length = items'.length →
      (∀ p ∈ items.zip items', Reordered p.1 p.2) → Reordered (.list items) (.list items')
  | obj {entries entries' : List (String × Value)} :
      (entries.map (·.1)).Perm (entries'.map (·.1)) →
      (∀ e ∈ entries, ∀ e' ∈ entries', e.1 = e'.1 → Reordered e.2 e'.2) →
      Reordered (.obj entries) (.obj entries')

end Value

namespace Json

open Value (Regular Reordered)

theorem canonicalItems_eq (vs : List Value) : canonicalItems vs = vs.map canonical := by
  induction vs with
  | nil => rfl
  | cons v vs ih => simp [canonicalItems, ih]

theorem canonicalEntries_eq (es : List (String × Value)) :
    canonicalEntries es = es.map fun e => (e.1, canonical e.2) := by
  induction es with
  | nil => rfl
  | cons e es ih =>
    obtain ⟨k, v⟩ := e
    simp [canonicalEntries, ih]

theorem entryFaults_eq (room : Nat) (es : List (String × Value)) :
    entryFaults room es = es.map fun e => (e.1, canonicalFault? room e.2) := by
  induction es with
  | nil => rfl
  | cons e es ih =>
    obtain ⟨k, v⟩ := e
    simp [entryFaults, ih]

theorem itemsFault?_eq (room : Nat) (vs : List Value) :
    itemsFault? room vs = (vs.map (canonicalFault? room)).findSome? id := by
  induction vs with
  | nil => rfl
  | cons v vs ih =>
    rw [itemsFault?, ih, List.map_cons, List.findSome?_cons]
    cases canonicalFault? room v <;> rfl

section Writing

variable {v w : Value} {es fs : List (String × Value)}

/-- Entries with the same keys and like values come to the same in the order of their keys. -/
theorem sortBy_map_congr {β : Type} {g : Value → β} (hn : (es.map (·.1)).Nodup)
    (hkeys : (es.map (·.1)).Perm (fs.map (·.1)))
    (hg : ∀ e ∈ es, ∀ f ∈ fs, e.1 = f.1 → g e.2 = g f.2) :
    sortBy textAtMost (es.map fun e => (e.1, g e.2)) =
      sortBy textAtMost (fs.map fun e => (e.1, g e.2)) := by
  have keyed : ∀ hs : List (String × Value), (hs.map fun e => (e.1, g e.2)).map
    (·.1) = hs.map (·.1) :=
    fun hs => by simp
  have hn' : ((fs.map fun e => (e.1, g e.2)).map (·.1)).Nodup := by
    rw [keyed]
    exact hkeys.nodup hn
  refine sortBy_congr orders_textAtMost hn' ?_
  rw [List.perm_ext_iff_of_nodup (by rw [← keyed] at hn; exact hn.of_map) hn'.of_map]
  rintro ⟨k, t⟩
  simp only [List.mem_map, Prod.mk.injEq]
  constructor
  · rintro ⟨e, he, rfl, rfl⟩
    obtain ⟨f, hf, hk⟩ := List.mem_map.mp (hkeys.mem_iff.mp (List.mem_map_of_mem he))
    exact ⟨f, hf, hk, (hg e he f hf hk.symm).symm⟩
  · rintro ⟨f, hf, rfl, rfl⟩
    obtain ⟨e, he, hk⟩ := List.mem_map.mp (hkeys.mem_iff.mpr (List.mem_map_of_mem hf))
    exact ⟨e, he, hk, hg e he f hf hk⟩

theorem map_congr_zip {α β : Type} {g : α → β} {vs ws : List α} (hlen : vs.length = ws.length)
    (hg : ∀ p ∈ vs.zip ws, g p.1 = g p.2) : vs.map g = ws.map g := by
  have hall : List.Forall₂ (· = ·) (vs.map g) (ws.map g) := by
    rw [List.forall₂_map_left_iff, List.forall₂_map_right_iff]
    exact List.forall₂_iff_zip.mpr ⟨hlen, fun hp => hg _ hp⟩
  rwa [List.forall₂_eq_eq_eq] at hall

/-- Reordered values have one canonical text, or none for one reason. -/
theorem canonical_of_reordered (room : Nat) (h : Reordered v w) (hv : v.Regular) :
    canonical v = canonical w ∧ canonicalFault? room v = canonicalFault? room w := by
  induction h generalizing room with
  | float hx => simp [canonical, canonicalFault?, hx]
  | @list items items' hlen _ ih =>
    cases hv with
    | list hitems =>
      have same := fun room p hp => ih p hp room (hitems p.1 (List.of_mem_zip hp).1)
      have texts := map_congr_zip (g := canonical) hlen fun p hp => (same 0 p hp).1
      have faults := fun left =>
        map_congr_zip (g := canonicalFault? left) hlen fun p hp => (same left p hp).2
      simp only [canonical, canonicalFault?, canonicalItems_eq, itemsFault?_eq, texts,
        faults, and_self]
  | @obj entries entries' hkeys _ ih =>
    cases hv with
    | obj hn hentries =>
      have same := fun room e he f hf hk => ih e he f hf hk room (hentries e he)
      have texts := sortBy_map_congr (g := canonical) hn hkeys
        fun e he f hf hk => (same 0 e he f hf hk).1
      have faults := fun left => sortBy_map_congr (g := canonicalFault? left) hn hkeys
        fun e he f hf hk => (same left e he f hf hk).2
      simp only [canonical, canonicalFault?, canonicalEntries_eq, entryFaults_eq, texts,
        faults, and_self]
  | _ => exact ⟨rfl, rfl⟩

end Writing

section Reading

variable {v w : Value} {r s : List Char}

/-- The kind of a value shows in its text, whatever follows it. -/
theorem kindOf_canonical (h : v.Regular) (hr : Ends r) :
    kindOf ((canonical v).toList ++ r) = v.kindName := by
  cases h with
  | null => exact isToken_null.kindOf_append hr
  | bool b =>
    rw [canonical, (isToken_bool b).kindOf_append hr]
    cases b <;> rfl
  | int n => rw [canonical, (isToken_toString n).kindOf_append hr,
      kindOfToken_toString, Value.kindName]
  | float hx => rw [canonical, (isToken_number hx).kindOf_append hr,
      kindOfToken_number hx, Value.kindName]
  | str s => simp [canonical, quoted, kindOf, Value.kindName]
  | list _ => simp [canonical, bracketed, kindOf, Value.kindName]
  | obj _ _ => simp [canonical, braced, kindOf, Value.kindName]

/-- No value starts where one may end. -/
theorem not_ends_canonical (h : v.Regular) : ¬Ends ((canonical v).toList ++ r) := by
  cases h with
  | null => exact isToken_null.not_ends
  | bool b => exact (isToken_bool b).not_ends
  | int n => exact (isToken_toString n).not_ends
  | float hx => exact (isToken_number hx).not_ends
  | str s => simp [canonical, quoted, Ends]
  | list _ => simp [canonical, bracketed, Ends]
  | obj _ _ => simp [canonical, braced, Ends]

theorem toList_canonical_list (vs : List Value) : (canonical (.list vs)).toList =
    '[' :: ([','].intercalate (vs.map fun v => (canonical v).toList) ++ [']']) := by
  simp [canonical, bracketed, canonicalItems_eq, Function.comp_def]

/-- The text of an entry. -/
def entryText (e : String × Value) : List Char :=
  (quoted e.1).toList ++ ':' :: (canonical e.2).toList

theorem toList_canonical_obj (es : List (String × Value)) : (canonical (.obj es)).toList =
    '\x7b' :: ([','].intercalate ((sortBy textAtMost es).map entryText) ++ ['\x7d']) := by
  have texts : entryText = fun e => (quoted e.1).toList ++ ':' :: (canonical e.2).toList := rfl
  simp [canonical, braced, canonicalEntries_eq, sortBy_map, Function.comp_def, texts]

theorem entryText_append (e : String × Value) :
    entryText e ++ r = (quoted e.1).toList ++ (':' :: ((canonical e.2).toList ++ r)) := by
  simp [entryText]

theorem not_ends_entryText (e : String × Value) : ¬Ends (entryText e ++ r) := by
  simp [entryText, quoted, Ends]

theorem kindName_congr (hv : v.Regular) (hw : w.Regular) (hr : Ends r) (hs : Ends s)
    (h : (canonical v).toList ++ r = (canonical w).toList ++ s) : v.kindName = w.kindName := by
  rw [← kindOf_canonical hv hr, h, kindOf_canonical hw hs]

/-- Mappings are reordered if their entries in the order of their keys are alike. -/
theorem reordered_of_sorted {es fs : List (String × Value)} (hn : (fs.map (·.1)).Nodup)
    (h : List.Forall₂ (fun e f => e.1 = f.1 ∧ Reordered e.2 f.2) (sortBy textAtMost es)
      (sortBy textAtMost fs)) : Reordered (.obj es) (.obj fs) := by
  have hkeys : (sortBy textAtMost es).map (·.1) = (sortBy textAtMost fs).map (·.1) :=
    map_congr_zip h.length_eq fun p hp => ((List.forall₂_iff_zip.mp h).2 hp).1
  refine .obj ?_ fun e he f hf hk => ?_
  · exact ((sortBy_perm es).map _).symm.trans (hkeys ▸ (sortBy_perm fs).map _)
  · have he' : e ∈ sortBy textAtMost es := (sortBy_perm es).mem_iff.mpr he
    obtain ⟨i, hi, rfl⟩ := List.mem_iff_getElem.mp he'
    have hi' : i < (sortBy textAtMost fs).length := h.length_eq ▸ hi
    obtain ⟨hkey, hvalue⟩ := h.get hi hi'
    -- the entry at the same place has the same key, and no other entry has
    have hf' : (sortBy textAtMost fs)[i] ∈ fs := (sortBy_perm fs).mem_iff.mp (List.getElem_mem _)
    obtain rfl := List.inj_on_of_nodup_map hn hf' hf (hkey.symm.trans hk)
    exact hvalue

/-- What a text says of a value, and where the value ends in it, whatever follows. -/
theorem reordered_of_append (hv : v.Regular) (hw : w.Regular) (hr : Ends r) (hs : Ends s)
    (h : (canonical v).toList ++ r = (canonical w).toList ++ s) : Reordered v w ∧ r = s := by
  have hkind := kindName_congr hv hw hr hs h
  induction hv generalizing w r s with
  | null =>
    cases hw with
    | null => exact ⟨.null, List.append_cancel_left h⟩
    | _ => simp [Value.kindName] at hkind
  | bool b =>
    cases hw with
    | bool c =>
      obtain ⟨hbc, hrs⟩ := (isToken_bool b).append_inj (isToken_bool c) hr hs h
      obtain rfl : b = c := by
        revert hbc
        cases b <;> cases c <;> decide
      exact ⟨.bool b, hrs⟩
    | _ => simp [Value.kindName] at hkind
  | int m =>
    cases hw with
    | int n =>
      obtain ⟨hmn, hrs⟩ := (isToken_toString m).append_inj (isToken_toString n) hr hs h
      obtain rfl := toString_inj (String.toList_inj.mp hmn)
      exact ⟨.int m, hrs⟩
    | _ => simp [Value.kindName] at hkind
  | float hx =>
    cases hw with
    | float hy =>
      obtain ⟨hxy, hrs⟩ := (isToken_number hx).append_inj (isToken_number hy) hr hs h
      exact ⟨.float (String.toList_inj.mp hxy), hrs⟩
    | _ => simp [Value.kindName] at hkind
  | str a =>
    cases hw with
    | str b =>
      obtain ⟨rfl, hrs⟩ := quoted_append_inj h
      exact ⟨.str a, hrs⟩
    | _ => simp [Value.kindName] at hkind
  | @list vs hvs ih =>
    cases hw with
    | @list ws hws =>
      rw [toList_canonical_list, toList_canonical_list, List.cons_append, List.cons_append,
        List.append_assoc, List.append_assoc] at h
      obtain ⟨hall, hrs⟩ := forall₂_of_intercalate (R := Reordered) (by decide) (by decide)
        (fun v hv r => not_ends_canonical (hvs v hv)) (fun w hw r => not_ends_canonical (hws w hw))
        (fun v hv w hw {r s} hr hs heq =>
          ih v hv (hws w hw) hr hs heq (kindName_congr (hvs v hv) (hws w hw) hr hs heq))
        (List.cons.inj h).2
      exact ⟨.list hall.length_eq fun p hp => (List.forall₂_iff_zip.mp hall).2 hp, hrs⟩
    | _ => simp [Value.kindName] at hkind
  | @obj es hn hes ih =>
    cases hw with
    | @obj fs hn' hfs =>
      rw [toList_canonical_obj, toList_canonical_obj, List.cons_append, List.cons_append,
        List.append_assoc, List.append_assoc] at h
      have hes' : ∀ e ∈ sortBy textAtMost es, e ∈ es := fun e he => (sortBy_perm es).mem_iff.mp he
      have hfs' : ∀ f ∈ sortBy textAtMost fs, f ∈ fs := fun f hf => (sortBy_perm fs).mem_iff.mp hf
      obtain ⟨hall, hrs⟩ := forall₂_of_intercalate (R := fun e f => e.1 = f.1 ∧ Reordered e.2 f.2)
        (by decide) (by decide) (fun e _ r => not_ends_entryText e)
          (fun f _ r => not_ends_entryText f)
        (fun e he f hf {r s} hr hs heq => by
          rw [entryText_append, entryText_append] at heq
          obtain ⟨hk, hrest⟩ := quoted_append_inj heq
          have hvalue := (List.cons.inj hrest).2
          have he := hes' e he
          have hf := hfs' f hf
          obtain ⟨hef, hrs⟩ := ih e he (hfs f hf) hr hs hvalue
            (kindName_congr (hes e he) (hfs f hf) hr hs hvalue)
          exact ⟨⟨hk, hef⟩, hrs⟩)
        (List.cons.inj h).2
      exact ⟨reordered_of_sorted hn' hall, hrs⟩
    | _ => simp [Value.kindName] at hkind

end Reading

end Json
end SchemaIntents
