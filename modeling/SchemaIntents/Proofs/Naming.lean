import SchemaIntents.Naming
import SchemaIntents.Proofs.Text.Casing
import SchemaIntents.Proofs.Text.Points

/-! Names of tables are never empty. A plural has a character that separates no words, whatever the
name is, and each spelling keeps something of a name that has one. And no halves of pairs come into
a name. -/
namespace SchemaIntents

namespace Text

theorem lowerChar_ne_nil (c : Char) : lowerChar c ≠ [] := by
  unfold lowerChar
  split
  · simp
  · split <;> simp

theorem upperChar_ne_nil (c : Char) : upperChar c ≠ [] := by
  have spelled : ∀ e ∈ Casing.upperSpelled, e.2 ≠ [] := by decide
  unfold upperChar
  split
  · simp
  · split
    · rename_i e he
      simpa using spelled e (List.mem_of_find?_eq_some he)
    · simp

theorem lowerFrom_ne_nil {before cs : List Char} (h : cs ≠ []) : lowerFrom before cs ≠ [] := by
  cases cs with
  | nil => exact absurd rfl h
  | cons c rest =>
    refine List.append_ne_nil_of_left_ne_nil ?_ _
    split
    · split <;> simp
    · exact lowerChar_ne_nil c

end Text

namespace Naming

open Text

/-- Whether characters have one among them that belongs to a word. -/
def HasWord (cs : List Char) : Prop :=
  ∃ c ∈ cs, isSeparator c = false

theorem HasWord.ne_nil {cs : List Char} (h : HasWord cs) : cs ≠ [] := by
  obtain ⟨c, hc, -⟩ := h
  exact List.ne_nil_of_mem hc

section Plural

/-- The plural of a word has a letter of its ending. -/
theorem hasWord_regularPlural (word : List Char) : HasWord (regularPlural word) := by
  refine ⟨'s', ?_, by decide⟩
  unfold regularPlural
  split
  · simp
  · split <;> simp

theorem hasWord_plural (word : String) : HasWord (plural word).toList := by
  -- a capital at the start changes just the first letter
  have irregular : ∀ p ∈ irregularPlurals.map (·.2), HasWord p.toList.tail := by
    simp [irregularPlurals, HasWord]
    decide
  unfold plural
  split
  · rename_i p hp
    obtain ⟨before, after, hsplit, -⟩ := List.lookup_eq_some_iff.mp hp
    obtain ⟨c, hc, hsep⟩ := irregular p (by rw [hsplit]; simp)
    split
    · split
      · rename_i first rest hlist
        rw [hlist] at hc
        exact ⟨c, by simpa using .inr hc, hsep⟩
      · rename_i hnil
        simp [hnil] at hc
    · exact ⟨c, List.mem_of_mem_tail hc, hsep⟩
  · rw [String.toList_ofList]
    exact hasWord_regularPlural word.toList

end Plural

section Words

/-- A word that is under way, or that begins later, is found. -/
theorem exists_mem_wordsFrom {word cs : List Char} (h : word ≠ [] ∨ HasWord cs) :
    ∃ w ∈ wordsFrom word cs, w ≠ [] := by
  induction cs generalizing word with
  | nil =>
    have hword : word ≠ [] := h.resolve_right fun hw => hw.ne_nil rfl
    exact ⟨word.reverse, by simp [wordsFrom, hword], by simpa using hword⟩
  | cons c rest ih =>
    rw [wordsFrom]
    by_cases hc : isSeparator c = true
    · rw [if_pos hc]
      cases word with
      | nil =>
        obtain ⟨d, hd, hsep⟩ := h.resolve_left fun hn => hn rfl
        rcases List.mem_cons.mp hd with rfl | hd
        · simp [hc] at hsep
        · exact ih (.inr ⟨d, hd, hsep⟩)
      | cons first later => exact ⟨(first :: later).reverse, by simp, by simp⟩
    · rw [if_neg hc]
      exact ih (.inl (by simp))

theorem capitalize_ne_nil {w : List Char} (h : w ≠ []) : capitalize w ≠ [] := by
  cases w with
  | nil => exact absurd rfl h
  | cons c cs => exact List.append_ne_nil_of_left_ne_nil (upperChar_ne_nil c) cs

theorem pascalChars_ne_nil {cs : List Char} (h : HasWord cs) : pascalChars cs ≠ [] := by
  obtain ⟨w, hw, hne⟩ : ∃ w ∈ wordsFrom [] cs, w ≠ [] := exists_mem_wordsFrom (.inr h)
  intro hnil
  exact capitalize_ne_nil hne (List.flatMap_eq_nil_iff.mp hnil w hw)

theorem pascal_ne {name : String} (h : HasWord name.toList) : pascal name ≠ "" := by
  simpa [pascal] using pascalChars_ne_nil h

theorem camel_ne {name : String} (h : HasWord name.toList) : camel name ≠ "" := by
  unfold camel
  split
  · exact absurd ‹_› (pascalChars_ne_nil h)
  · simp [lowerChar_ne_nil]

end Words

section Breaks

theorem breakAtCapital_ne_nil {cs : List Char} (h : cs ≠ []) : breakAtCapital cs ≠ [] := by
  unfold breakAtCapital
  split
  · split <;> simp
  · exact h

theorem breakAfterAcronym_ne_nil {cs : List Char} (h : cs ≠ []) : breakAfterAcronym cs ≠ [] := by
  unfold breakAfterAcronym
  split
  · split <;> simp
  · exact h

/-- A gap at the start is closed by an underscore. -/
theorem closeGaps_ne_nil {cs : List Char} (h : cs ≠ []) : closeGaps false cs ≠ [] := by
  cases cs with
  | nil => exact absurd rfl h
  | cons c rest =>
    rw [closeGaps]
    split <;> simp

theorem snake_ne {name : String} (h : HasWord name.toList) : snake name ≠ "" := by
  have hbreaks : snakeBreaks name.toList ≠ [] :=
    closeGaps_ne_nil (breakAfterAcronym_ne_nil (breakAtCapital_ne_nil h.ne_nil))
  simpa [snake, lower] using lowerFrom_ne_nil hbreaks

end Breaks

/-- Whatever an entity is called, and however tables are spelled, its table has a name. -/
theorem table_ne (convention : Convention) (entity : String) : table convention entity ≠ "" := by
  have h := hasWord_plural entity
  rw [table]
  cases convention with
  | snake =>
    rw [Convention.apply]
    exact snake_ne h
  | camel =>
    rw [Convention.apply]
    exact camel_ne h
  | pascal =>
    rw [Convention.apply]
    exact pascal_ne h

section Whole

variable {c : Char} {cs : List Char} {name : String}

theorem mem_of_mem_wordsFrom {word w : List Char} (hw : w ∈ wordsFrom word cs) (hc : c ∈ w) :
    c ∈ word ∨ c ∈ cs := by
  induction cs generalizing word with
  | nil =>
    rw [wordsFrom] at hw
    split at hw
    · cases hw
    · rw [List.mem_singleton.mp hw, List.mem_reverse] at hc
      exact .inl hc
  | cons first rest ih =>
    rw [wordsFrom] at hw
    split at hw
    · split at hw
      · exact (ih hw).elim (fun h => absurd h List.not_mem_nil) fun h =>
          .inr (List.mem_cons_of_mem _ h)
      · rcases List.mem_cons.mp hw with rfl | hw
        · exact .inl (List.mem_reverse.mp hc)
        · exact (ih hw).elim (fun h => absurd h List.not_mem_nil) fun h =>
            .inr (List.mem_cons_of_mem _ h)
    · rcases ih hw with h | h
      · exact (List.mem_cons.mp h).elim (fun h => .inr (h ▸ List.mem_cons_self)) .inl
      · exact .inr (List.mem_cons_of_mem _ h)

theorem halfMark_of_mem_capitalize {w : List Char} (h : halfMark ∈ capitalize w) :
    halfMark ∈ w := by
  cases w with
  | nil => cases h
  | cons first rest =>
    rcases List.mem_append.mp h with h | h
    · exact List.mem_cons.mpr (.inl (halfMark_of_mem_upperChar h).symm)
    · exact List.mem_cons_of_mem _ h

theorem halfMark_of_mem_pascalChars (h : halfMark ∈ pascalChars cs) : halfMark ∈ cs := by
  obtain ⟨w, hw, h⟩ := List.mem_flatMap.mp h
  exact (mem_of_mem_wordsFrom hw (halfMark_of_mem_capitalize h)).resolve_left List.not_mem_nil

theorem mem_of_mem_breakAtCapital (h : c ∈ breakAtCapital cs) : c = '_' ∨ c ∈ cs := by
  fun_induction breakAtCapital cs <;> simp_all <;> tauto

theorem mem_of_mem_breakAfterAcronym (h : c ∈ breakAfterAcronym cs) : c = '_' ∨ c ∈ cs := by
  fun_induction breakAfterAcronym cs <;> simp_all <;> tauto

theorem mem_of_mem_closeGaps {inGap : Bool} (h : c ∈ closeGaps inGap cs) : c = '_' ∨ c ∈ cs := by
  fun_induction closeGaps inGap cs <;> simp_all <;> tauto

theorem isTorn_pascal (h : isTorn name = false) : isTorn (pascal name) = false := by
  rw [pascal, isTorn_ofList]
  rw [isTorn] at h
  simpa using mt halfMark_of_mem_pascalChars (by simpa using h)

theorem isTorn_camel (h : isTorn name = false) : isTorn (camel name) = false := by
  have hchars : halfMark ∉ pascalChars name.toList :=
    mt halfMark_of_mem_pascalChars (by simpa [isTorn] using h)
  unfold camel
  split
  · rfl
  · rename_i first rest hfound
    rw [hfound, List.mem_cons, not_or] at hchars
    have hfirst : halfMark ∉ lowerChar first := fun hmem =>
      hchars.1 (halfMark_of_mem_lowerChar hmem).symm
    rw [isTorn_ofList]
    simpa using ⟨hfirst, hchars.2⟩

theorem isTorn_snake (h : isTorn name = false) : isTorn (snake name) = false := by
  have hchars : halfMark ∉ name.toList := by simpa [isTorn] using h
  have hunderscore : halfMark ≠ '_' := by decide
  have hbreaks : halfMark ∉ snakeBreaks name.toList := by
    intro hmem
    have hclosed := (mem_of_mem_closeGaps hmem).resolve_left hunderscore
    have hacronyms := (mem_of_mem_breakAfterAcronym hclosed).resolve_left hunderscore
    exact hchars ((mem_of_mem_breakAtCapital hacronyms).resolve_left hunderscore)
  rw [snake, lower, isTorn_ofList, String.toList_ofList]
  simpa using mt halfMark_of_mem_lowerFrom hbreaks

theorem isTorn_plural (h : isTorn name = false) : isTorn (plural name) = false := by
  have irregular : ∀ p ∈ irregularPlurals.map (·.2), isTorn p = false ∧
      ∀ c cs, p.toList = c :: cs → isTorn (String.ofList (c.toUpper :: cs)) = false := by
    simp [irregularPlurals]
    decide
  have hchars : halfMark ∉ name.toList := by simpa [isTorn] using h
  have endings : halfMark ∉ "ies".toList ∧ halfMark ∉ "es".toList ∧ halfMark ≠ 's' := by decide
  unfold plural
  split
  · rename_i p hp
    obtain ⟨before, after, hsplit, -⟩ := List.lookup_eq_some_iff.mp hp
    obtain ⟨hwhole, hupper⟩ := irregular p (by rw [hsplit]; simp)
    split
    · split
      · exact hupper _ _ ‹_›
      · exact hwhole
    · exact hwhole
  · have hregular : halfMark ∉ regularPlural name.toList := by
      unfold regularPlural
      split
      · exact List.not_mem_append (fun hmem => hchars (List.dropLast_subset _ hmem)) endings.1
      · split
        · exact List.not_mem_append hchars endings.2.1
        · exact List.not_mem_append hchars (by simpa using endings.2.2)
    rw [isTorn_ofList]
    simpa using hregular

/-- The table of an entity whose name has no halves of pairs has none either. -/
theorem table_proper (convention : Convention) {entity : String} (h : isTorn entity = false) :
    IsProper (table convention entity) := by
  refine ⟨?_, table_ne convention entity⟩
  have hplural := isTorn_plural h
  rw [table]
  cases convention with
  | snake =>
    rw [Convention.apply]
    exact isTorn_snake hplural
  | camel =>
    rw [Convention.apply]
    exact isTorn_camel hplural
  | pascal =>
    rw [Convention.apply]
    exact isTorn_pascal hplural

end Whole

end Naming
end SchemaIntents
