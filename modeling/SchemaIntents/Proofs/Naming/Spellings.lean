import Mathlib.Data.Set.Function
import SchemaIntents.Proofs.Naming.Suffixes
import SchemaIntents.Proofs.Text.Pieces

/-! Names that are put together from words. A capital marks where a word starts just as an
underscore does, so either spelling gives back the other, and names that differ stay different in
it. -/
namespace SchemaIntents

namespace Naming

open Text

/-- A small letter, and after it small letters and digits. -/
@[ext]
structure Word where
  first : Char
  rest : List Char
  first_isLower : first.isLower
  rest_isSmall : ∀ c ∈ rest, isSmall c

namespace Word

def chars (w : Word) : List Char :=
  w.first :: w.rest

/-- The word with a capital at its start. -/
def capitalChars (w : Word) : List Char :=
  w.first.toUpper :: w.rest

/-- A word of more than one character. -/
def IsLong (w : Word) : Prop :=
  w.rest ≠ []

end Word

/-- Words with underscores between them. -/
def joined (ws : List Word) : String :=
  String.ofList (['_'].intercalate (ws.map Word.chars))

/-- Words one after another, each with a capital at its start. -/
def capitals (ws : List Word) : String :=
  String.ofList (ws.flatMap Word.capitalChars)

section Letters

variable {c : Char}

theorem isAlphanum_of_isSmall (h : isSmall c) : c.isAlphanum := by
  rw [isSmall, Bool.or_eq_true] at h
  rw [isAlphanum_iff]
  exact h.imp_left .inr

theorem isUpper_of_isSmall (h : isSmall c) : c.isUpper = false := by
  rw [Bool.eq_false_iff]
  intro hupper
  simp [isSmall_eq_false hupper] at h

theorem isSeparator_of_isAlphanum (h : c.isAlphanum) : isSeparator c = false := by
  have hgap := (toNat_lt_of_isAlphanum h).2
  rw [isGap, Bool.or_eq_false_iff] at hgap
  have hunderscore : c ≠ '_' := by
    rintro rfl
    exact absurd h (by decide)
  simp [isSeparator, hgap, hunderscore]

theorem Word.forall_mem_chars (w : Word) : ∀ c ∈ w.chars, isSmall c :=
  List.forall_mem_cons.mpr ⟨by simp [isSmall, w.first_isLower], w.rest_isSmall⟩

theorem Word.isUpper_toUpper_first (w : Word) : w.first.toUpper.isUpper :=
  isUpper_toUpper w.first_isLower

end Letters

/-- The first of several words stands before an underscore. -/
theorem intercalate_words (f : Word → List Char) (w v : Word) (ws : List Word) :
    ['_'].intercalate ((w :: v :: ws).map f) = f w ++ '_' :: ['_'].intercalate
      ((v :: ws).map f) := by
  simp [List.intercalate_cons_cons]

/-- What is done to each of several words with underscores between them, the last one included. -/
theorem intercalate_of_words {g : List Char → List Char} {f f' : Word → List Char} {ws : List Word}
    (hnil : g [] = []) (hlast : ∀ w ∈ ws, g (f w) = f' w)
    (hword : ∀ w ∈ ws, ∀ rest, g (f w ++ '_' :: rest) = f' w ++ '_' :: g rest) :
    g (['_'].intercalate (ws.map f)) = ['_'].intercalate (ws.map f') := by
  induction ws with
  | nil => exact hnil
  | cons w ws ih =>
    rw [List.forall_mem_cons] at hlast hword
    cases ws with
    | nil => simpa using hlast.1
    | cons v ws => rw [intercalate_words, intercalate_words, hword.1, ih hlast.2 hword.2]

section Capitals

variable {word cs rest : List Char}

/-- Characters of a word go to the word that is under way. -/
theorem wordsFrom_append (h : ∀ c ∈ cs, isSeparator c = false) :
    wordsFrom word (cs ++ rest) = wordsFrom (cs.reverse ++ word) rest := by
  induction cs generalizing word with
  | nil => rfl
  | cons c cs ih =>
    rw [List.forall_mem_cons] at h
    rw [List.cons_append, wordsFrom, if_neg (by simp [h.1]), ih h.2]
    simp

/-- The words of a name are those that were joined. -/
theorem words_joined (ws : List Word) : words (joined ws).toList = ws.map Word.chars := by
  have found (w : Word) (rest : List Char) :
      wordsFrom [] (w.chars ++ rest) = wordsFrom w.chars.reverse rest := by
    rw [wordsFrom_append fun c hc =>
      isSeparator_of_isAlphanum (isAlphanum_of_isSmall (w.forall_mem_chars c hc)), List.append_nil]
  rw [joined, String.toList_ofList, words]
  induction ws with
  | nil => rfl
  | cons w ws ih =>
    cases ws with
    | nil => simpa [wordsFrom, Word.chars] using found w []
    | cons v ws =>
      rw [intercalate_words, found, wordsFrom, if_pos (by decide), ih]
      simp [Word.chars]

theorem capitalize_chars (w : Word) : capitalize w.chars = w.capitalChars := by
  have hfirst := isLower_iff.mp w.first_isLower
  rw [Word.chars, capitalize, upperChar, if_pos (by omega), Word.capitalChars,
    List.singleton_append]

theorem pascal_joined (ws : List Word) : pascal (joined ws) = capitals ws := by
  have hcapital : capitalize ∘ Word.chars = Word.capitalChars := funext capitalize_chars
  rw [pascal, pascalChars, words_joined, List.flatMap_map, capitals]
  exact congrArg (fun f => String.ofList (ws.flatMap f)) hcapital

end Capitals

section Underscores

variable {a b : Char} {cs rest : List Char} {ws : List Word}

/-- A capital after small letters and digits starts a word, and nothing before it does. -/
theorem breakAtCapital_of_isSmall (ha : isSmall a) (hcs : ∀ c ∈ cs, isSmall c) (hb : b.isUpper) :
    breakAtCapital (a :: cs ++ b :: rest) = a :: cs ++ '_' :: breakAtCapital (b :: rest) := by
  induction cs generalizing a with
  | nil => simp [breakAtCapital, ha, hb]
  | cons c cs ih =>
    rw [List.forall_mem_cons] at hcs
    rw [List.cons_append, List.cons_append, breakAtCapital, ← List.cons_append, ih hcs.1 hcs.2]
    simp [isUpper_of_isSmall hcs.1]

/-- A capital after a long word starts the next word. -/
theorem breakAtCapital_word {w : Word} (hw : w.IsLong) (hb : b.isUpper) :
    breakAtCapital (w.capitalChars ++ b :: rest) = w.capitalChars ++ '_' ::
      breakAtCapital (b :: rest) := by
  obtain ⟨a, cs, hrest⟩ := List.exists_cons_of_ne_nil hw
  obtain ⟨ha, hcs⟩ := List.forall_mem_cons.mp (hrest ▸ w.rest_isSmall)
  rw [Word.capitalChars, hrest, List.cons_append, List.cons_append, breakAtCapital,
    ← List.cons_append, breakAtCapital_of_isSmall ha hcs hb]
  simp [isSmall_eq_false w.isUpper_toUpper_first]

theorem breakAtCapital_capitals (h : ∀ w ∈ ws, w.IsLong) :
    breakAtCapital (ws.flatMap Word.capitalChars) =
      ['_'].intercalate (ws.map Word.capitalChars) := by
  induction ws with
  | nil => rfl
  | cons w ws ih =>
    rw [List.forall_mem_cons] at h
    cases ws with
    | nil =>
      have hlast := breakAtCapital_cons (fun c hc =>
        isUpper_of_isSmall (w.rest_isSmall c hc)) w.first.toUpper
      simpa [Word.capitalChars] using hlast
    | cons v ws =>
      rw [intercalate_words, ← ih h.2]
      exact breakAtCapital_word h.1 v.isUpper_toUpper_first

/-- What has no capitals stays as it is, whatever follows. -/
theorem breakAfterAcronym_append_left (hcs : ∀ c ∈ cs, c.isUpper = false) :
    breakAfterAcronym (cs ++ rest) = cs ++ breakAfterAcronym rest := by
  induction cs with
  | nil => rfl
  | cons a cs ih =>
    rw [List.forall_mem_cons] at hcs
    rw [List.cons_append, List.cons_append, ← ih hcs.2]
    generalize cs ++ rest = later
    match later with
    | [] => rfl
    | [b] => rfl
    | b :: c :: later => simp [breakAfterAcronym, hcs.1]

/-- A long word before an underscore has no capital but its first, so nothing in it is an
acronym. -/
theorem breakAfterAcronym_word {w : Word} (hw : w.IsLong) :
    breakAfterAcronym (w.capitalChars ++ '_' :: rest) = w.capitalChars ++ '_' ::
      breakAfterAcronym rest := by
  have hcalm : ∀ c ∈ w.rest ++ ['_'], c.isUpper = false := by
    intro c hc
    rcases List.mem_append.mp hc with hc | hc
    · exact isUpper_of_isSmall (w.rest_isSmall c hc)
    · rw [List.mem_singleton.mp hc]
      decide
  have hlater : breakAfterAcronym (w.rest ++ ['_'] ++ rest) = w.rest ++ ['_'] ++
    breakAfterAcronym rest :=
    breakAfterAcronym_append_left hcalm
  rw [List.append_assoc, List.append_assoc, List.singleton_append, List.singleton_append] at hlater
  obtain ⟨a, cs, hrest⟩ := List.exists_cons_of_ne_nil hw
  have ha : a.isUpper = false := hcalm a (by simp [hrest])
  rw [Word.capitalChars, List.cons_append, List.cons_append, ← hlater, hrest]
  cases cs <;> simp [breakAfterAcronym, ha]

theorem breakAfterAcronym_capitals (h : ∀ w ∈ ws, w.IsLong) :
    breakAfterAcronym (['_'].intercalate (ws.map Word.capitalChars)) =
      ['_'].intercalate (ws.map Word.capitalChars) := by
  refine intercalate_of_words rfl (fun w _ => ?_) fun w hw rest => breakAfterAcronym_word (h w hw)
  have hlast := breakAfterAcronym_cons (fun c hc =>
    isUpper_of_isSmall (w.rest_isSmall c hc)) w.first.toUpper
  simpa [Word.capitalChars] using hlast

theorem map_toLower_capitalChars (w : Word) : w.capitalChars.map Char.toLower = w.chars := by
  have hfirst : w.first.toUpper.toLower = w.first := by
    have hup := toNat_toUpper w.first_isLower
    have hlow := toNat_toLower w.isUpper_toUpper_first
    exact Char.toNat_inj.mp (by omega)
  have hrest : w.rest.map Char.toLower = w.rest := by
    refine (List.map_congr_left fun c hc => ?_).trans (List.map_id _)
    exact toLower_eq_self (isUpper_of_isSmall (w.rest_isSmall c hc))
  rw [Word.capitalChars, List.map_cons, hfirst, hrest, Word.chars]

theorem map_toLower_capitals (ws : List Word) :
    (['_'].intercalate (ws.map Word.capitalChars)).map Char.toLower =
      ['_'].intercalate (ws.map Word.chars) := by
  refine intercalate_of_words rfl (fun w _ => map_toLower_capitalChars w) fun w _ rest => ?_
  rw [List.map_append, map_toLower_capitalChars]
  rfl

theorem snake_capitals (h : ∀ w ∈ ws, w.IsLong) : snake (capitals ws) = joined ws := by
  have hname : ∀ c ∈ (capitals ws).toList, c.isAlphanum := by
    intro c hc
    rw [capitals, String.toList_ofList, List.mem_flatMap] at hc
    obtain ⟨w, -, hc⟩ := hc
    rcases List.mem_cons.mp hc with rfl | hc
    · exact isAlphanum_iff.mpr (.inl (.inl w.isUpper_toUpper_first))
    · exact isAlphanum_of_isSmall (w.rest_isSmall c hc)
  apply String.toList_injective
  rw [snake_eq hname, capitals, String.toList_ofList, breakAtCapital_capitals h,
    breakAfterAcronym_capitals h, map_toLower_capitals, joined, String.toList_ofList]

end Underscores

/-- Names of long words, with underscores between the words. -/
def joinedNames : Set String :=
  {u | ∃ ws : List Word, ws ≠ [] ∧ (∀ w ∈ ws, w.IsLong) ∧ joined ws = u}

/-- Names of long words, each with a capital at its start. -/
def capitalNames : Set String :=
  {p | ∃ ws : List Word, ws ≠ [] ∧ (∀ w ∈ ws, w.IsLong) ∧ capitals ws = p}

/-- The two spellings of a name of long words say the same: each gives the other, so between the
names in one spelling and those in the other they are inverse to each other. -/
theorem invOn_snake_pascal :
    (∀ ws : List Word, ws ≠ [] → (∀ w ∈ ws, w.IsLong) →
      pascal (joined ws) = capitals ws ∧ snake (capitals ws) = joined ws) ∧
      Set.BijOn pascal joinedNames capitalNames ∧
        Set.InvOn snake pascal joinedNames capitalNames := by
  have hto : Set.MapsTo pascal joinedNames capitalNames := by
    rintro u ⟨ws, hne, hlong, rfl⟩
    exact ⟨ws, hne, hlong, (pascal_joined ws).symm⟩
  have hback : Set.MapsTo snake capitalNames joinedNames := by
    rintro p ⟨ws, hne, hlong, rfl⟩
    exact ⟨ws, hne, hlong, (snake_capitals hlong).symm⟩
  have hinv : Set.InvOn snake pascal joinedNames capitalNames := by
    constructor
    · rintro u ⟨ws, -, hlong, rfl⟩
      rw [pascal_joined, snake_capitals hlong]
    · rintro p ⟨ws, -, hlong, rfl⟩
      rw [snake_capitals hlong, pascal_joined]
  exact ⟨fun ws _ hlong => ⟨pascal_joined ws, snake_capitals hlong⟩, hinv.bijOn hto hback, hinv⟩

/-- A digit ends a word as a letter does. -/
theorem invOn_snake_pascal_itemList :
    let item : Word := ⟨'i', "tem2".toList, by decide, List.all_eq_true.mp (by decide)⟩
    let list : Word := ⟨'l', "ist".toList, by decide, List.all_eq_true.mp (by decide)⟩
    let ws : List Word := [item, list]
    ws ≠ [] ∧ (∀ w ∈ ws, w.IsLong) ∧ joined ws = "item2_list" ∧ capitals ws = "Item2List" ∧
      pascal "item2_list" = "Item2List" ∧ snake "Item2List" = "item2_list" := by
  intro item list ws
  have hlong : ∀ w ∈ ws, w.IsLong := by simp [ws, item, list, Word.IsLong]
  have hjoined : joined ws = "item2_list" := by decide +kernel
  have hcapitals : capitals ws = "Item2List" := by decide +kernel
  obtain ⟨hpascal, hsnake⟩ := invOn_snake_pascal.1 ws (by simp [ws]) hlong
  rw [hjoined, hcapitals] at hpascal hsnake
  exact ⟨by simp [ws], hlong, hjoined, hcapitals, hpascal, hsnake⟩

section Different

/-- A word has no capital but the one at its start. -/
theorem isPiece_capitalChars (w : Word) : IsPiece Char.isUpper w.capitalChars :=
  ⟨List.cons_ne_nil _ _, w.isUpper_toUpper_first, fun c hc =>
    isUpper_of_isSmall (w.rest_isSmall c hc)⟩

theorem capitalChars_injective : Function.Injective Word.capitalChars := by
  intro w v h
  obtain ⟨hfirst, hrest⟩ := List.cons.inj h
  refine Word.ext (Char.toNat_inj.mp ?_) hrest
  have hup := toNat_toUpper w.first_isLower
  have hup' := toNat_toUpper v.first_isLower
  rw [hfirst] at hup
  omega

theorem flatMap_capitalChars_injective :
    Function.Injective fun ws : List Word => ws.flatMap Word.capitalChars := by
  intro ws vs h
  have hpieces (ws : List Word) : ∀ w ∈ ws, IsPiece Char.isUpper w.capitalChars := fun w _ =>
    isPiece_capitalChars w
  exact (flatMap_inj_of_isPiece capitalChars_injective (hpieces ws) (hpieces vs)).mp h

/-- The enumerations of fields with different names have different names, if the names are words
with underscores between them. -/
theorem enumeration_joined_ne (owner : String) {ws vs : List Word} (hne : joined ws ≠ joined vs) :
    enumeration owner (joined ws) ≠ enumeration owner (joined vs) := by
  intro h
  rw [enumeration, enumeration, String.append_left_inj, String.append_right_inj, pascal_joined,
    pascal_joined] at h
  have hchars := congrArg String.toList h
  rw [capitals, capitals, String.toList_ofList, String.toList_ofList] at hchars
  exact hne (congrArg joined (flatMap_capitalChars_injective hchars))

/-- Two words of one letter are told from one word of two. -/
theorem enumeration_joined_ne_letters :
    let a : Word := ⟨'a', [], by decide, List.forall_mem_nil _⟩
    let b : Word := ⟨'b', [], by decide, List.forall_mem_nil _⟩
    let ab : Word := ⟨'a', ['b'], by decide, List.all_eq_true.mp (by decide)⟩
    joined [a, b] = "a_b" ∧ joined [ab] = "ab" ∧
      enumeration "Post" "a_b" ≠ enumeration "Post" "ab" := by
  intro a b ab
  have htwo : joined [a, b] = "a_b" := by decide +kernel
  have hone : joined [ab] = "ab" := by decide +kernel
  have hne : enumeration "Post" (joined [a, b]) ≠ enumeration "Post" (joined [ab]) :=
    enumeration_joined_ne "Post" (by rw [htwo, hone]; decide)
  rw [htwo, hone] at hne
  exact ⟨htwo, hone, hne⟩

end Different

section Settled

/-- The characters that a gap is made of, as runs. -/
def gapRuns : List Text.Run := [
  ⟨0x09, 0x0D, 1, 0⟩, ⟨0x1C, 0x20, 1, 0⟩, ⟨0x2D, 0x2D, 1, 0⟩, ⟨0x85, 0x85, 1, 0⟩,
    ⟨0xA0, 0xA0, 1, 0⟩,
  ⟨0x1680, 0x1680, 1, 0⟩, ⟨0x2000, 0x200A, 1, 0⟩, ⟨0x2028, 0x2029, 1, 0⟩, ⟨0x202F, 0x202F, 1, 0⟩,
  ⟨0x205F, 0x205F, 1, 0⟩, ⟨0x3000, 0x3000, 1, 0⟩]

variable {c d : Char} {cs before : List Char}

theorem exists_covers_of_isGap (h : isGap c) : ∃ q ∈ gapRuns, q.covers c := by
  have hhyphen : c = '-' ↔ c.toNat = 0x2D := Char.toNat_inj.symm
  simp [isGap, isBlank, isWhiteSpace, hhyphen] at h
  simp [gapRuns, Text.Run.covers_iff, Nat.mod_one]
  omega

theorem avoids_gaps : ∀ r ∈ capitalRuns, ∀ q ∈ gapRuns, r.avoids q := by
  have h : (capitalRuns.all fun r => gapRuns.all r.avoids) = true := by decide +kernel
  simpa only [List.all_eq_true] using h

/-- No gap comes up where capitals become small. -/
theorem isGap_of_mem_lowerChar (hd : d ∈ lowerChar c) (hgap : isGap d) : d = c := by
  rcases lowerChar_cases c with hc | hc | ⟨r, hr, hcovers, e, hc, he⟩
  · rwa [hc, List.mem_singleton] at hd
  · rw [hc] at hd
    simp only [List.mem_cons, List.not_mem_nil, or_false] at hd
    rcases hd with rfl | rfl <;> exact absurd hgap (by decide)
  · rw [hc, List.mem_singleton] at hd
    rw [← hd] at he
    obtain ⟨q, hq, hcovered⟩ := exists_covers_of_isGap hgap
    have hfree := Text.Run.not_covers_of_avoids (leadsToChars_of_mem r hr).1
      (avoids_gaps r hr q hq) hcovers he
    simp [hfree] at hcovered

theorem isGap_lowerFrom (h : ∀ c ∈ cs, isGap c = false) :
    ∀ d ∈ lowerFrom before cs, isGap d = false := by
  induction cs generalizing before with
  | nil => simp [lowerFrom]
  | cons c rest ih =>
    rw [List.forall_mem_cons] at h
    rw [lowerFrom, List.forall_mem_append]
    refine ⟨fun d hd => ?_, ih h.2⟩
    split at hd
    · split at hd <;> (rw [List.mem_singleton.mp hd]; decide)
    · by_contra hgap
      rw [Bool.not_eq_false] at hgap
      rw [isGap_of_mem_lowerChar hd hgap, h.1] at hgap
      cases hgap

theorem isGap_closeGaps (inGap : Bool) : ∀ c ∈ closeGaps inGap cs, isGap c = false := by
  fun_induction closeGaps inGap cs with
  | case1 => simp
  | case2 c rest hgap ih => exact ih
  | case3 inGap c rest hgap hfirst ih => exact List.forall_mem_cons.mpr ⟨by decide, ih⟩
  | case4 inGap c rest hgap ih => exact List.forall_mem_cons.mpr ⟨by simpa using hgap, ih⟩

theorem breakAtCapital_eq_self (h : ∀ c ∈ cs, c.isUpper = false) : breakAtCapital cs = cs := by
  have h' : breakAtCapital ([] ++ cs) = [] ++ cs := breakAtCapital_append h
  simpa using h'

theorem breakAfterAcronym_eq_self (h : ∀ c ∈ cs, c.isUpper = false) :
    breakAfterAcronym cs = cs := by
  have h' : breakAfterAcronym (cs ++ []) = cs ++ [] := breakAfterAcronym_append_left h
  simpa using h'

/-- Whatever a name is, its snake spelling has no capital of ASCII, no hyphen and no blank, and
nothing is left to be changed in it. -/
theorem snake_settled (name : String) :
    (∀ c ∈ (snake name).toList, c.isUpper = false ∧ c ≠ '-' ∧ isBlank c = false) ∧
      snake (snake name) = snake name := by
  have hsmall : ∀ c ∈ (snake name).toList, lowerChar c = [c] := by
    intro c hc
    rw [snake, lower, String.toList_ofList] at hc
    exact lowerChar_of_mem_lowerFrom hc
  have hgaps : ∀ c ∈ (snake name).toList, isGap c = false := by
    rw [snake, lower, String.toList_ofList, String.toList_ofList]
    exact isGap_lowerFrom (isGap_closeGaps false)
  have hcapitals : ∀ c ∈ (snake name).toList, c.isUpper = false := fun c hc =>
    isUpper_eq_false_of_lowerChar (hsmall c hc)
  constructor
  · intro c hc
    obtain ⟨hhyphen, hblank⟩ := Bool.or_eq_false_iff.mp (hgaps c hc)
    exact ⟨hcapitals c hc, by simpa using hhyphen, hblank⟩
  · generalize snake name = u at hsmall hgaps hcapitals
    rw [snake, snakeBreaks, breakAtCapital_eq_self hcapitals, breakAfterAcronym_eq_self hcapitals,
      closeGaps_eq_self hgaps, lower, String.toList_ofList, lowerFrom_eq_self hsmall,
        String.ofList_toList]

end Settled

end Naming
end SchemaIntents
