import SchemaIntents.Proofs.Naming

/-! How an ending that is put on a name moves the places where its words break. A small letter after
capitals marks the last of them as the start of a word, so just an acronym at the end of a name
loses its last letter to the ending. -/
namespace SchemaIntents

namespace Naming

open Text

/-- Whether characters end in two capitals. -/
def endsInAcronym : List Char → Bool
  | [a, b] => a.isUpper && b.isUpper
  | _ :: b :: c :: rest => endsInAcronym (b :: c :: rest)
  | _ => false

theorem endsInAcronym_append (before : List Char) (a b : Char) :
    endsInAcronym (before ++ [a, b]) = (a.isUpper && b.isUpper) := by
  induction before with
  | nil => rfl
  | cons x before ih =>
    cases before with
    | nil => rfl
    | cons y before =>
      cases before <;> exact ih

/-- The last two characters, where there are two. -/
theorem ends (cs : List Char) :
    cs = [] ∨ (∃ a, cs = [a]) ∨ ∃ before a b, cs = before ++ [a, b] := by
  rcases List.eq_nil_or_concat cs with rfl | ⟨rest, b, rfl⟩
  · exact .inl rfl
  · rcases List.eq_nil_or_concat rest with rfl | ⟨before, a, rfl⟩
    · exact .inr (.inl ⟨b, rfl⟩)
    · exact .inr (.inr ⟨before, a, b, by simp⟩)

theorem exists_eq_push {name : String} (h : endsInAcronym name.toList) :
    ∃ (stem : String) (a b : Char), name = (stem.push a).push b ∧ a.isUpper ∧ b.isUpper := by
  rcases ends name.toList with hnil | ⟨a, hone⟩ | ⟨before, a, b, hends⟩
  · simp [hnil, endsInAcronym] at h
  · simp [hone, endsInAcronym] at h
  · rw [hends, endsInAcronym_append, Bool.and_eq_true] at h
    exact ⟨String.ofList before, a, b, String.toList_injective (by simp [hends]), h⟩

section Breaks

variable {cs suffix : List Char} {a b c : Char}

theorem isSmall_eq_false (h : c.isUpper) : isSmall c = false := by
  simp [isSmall, isLower_eq_false h, isDigit_eq_false h]

/-- Whether a word starts before a character does not depend on what follows it. -/
theorem exists_breakAtCapital (cs : List Char) (a : Char) :
    ∃ done, ∀ rest, breakAtCapital (cs ++ a :: rest) = done ++ breakAtCapital (a :: rest) := by
  induction cs with
  | nil => exact ⟨[], fun _ => rfl⟩
  | cons x cs ih =>
    obtain ⟨done, hdone⟩ := ih
    cases cs with
    | nil =>
      refine ⟨if isSmall x && a.isUpper then [x, '_'] else [x], fun rest => ?_⟩
      rw [List.cons_append, List.nil_append, breakAtCapital]
      split <;> rfl
    | cons y cs =>
      refine ⟨if isSmall x && y.isUpper then x :: '_' :: done else x :: done, fun rest => ?_⟩
      rw [List.cons_append, List.cons_append, breakAtCapital, ← List.cons_append, hdone]
      split <;> rfl

/-- Whether a word starts before a character depends on one character after it, and no more. -/
theorem exists_breakAfterAcronym (cs : List Char) (a b : Char) :
    ∃ done, ∀ rest,
      breakAfterAcronym (cs ++ a :: b :: rest) = done ++ breakAfterAcronym (a :: b :: rest) := by
  induction cs with
  | nil => exact ⟨[], fun _ => rfl⟩
  | cons x cs ih =>
    obtain ⟨done, hdone⟩ := ih
    -- the two characters that are looked at after `x`
    obtain ⟨y, z, hnext⟩ : ∃ y z, ∀ rest, ∃ later, cs ++ a :: b :: rest = y :: z :: later := by
      match cs with
      | [] => exact ⟨a, b, fun rest => ⟨rest, rfl⟩⟩
      | [y] => exact ⟨y, a, fun rest => ⟨b :: rest, rfl⟩⟩
      | y :: z :: cs => exact ⟨y, z, fun rest => ⟨cs ++ a :: b :: rest, rfl⟩⟩
    refine ⟨if x.isUpper && y.isUpper && z.isLower then x :: '_' :: done else x ::
      done, fun rest => ?_⟩
    obtain ⟨later, hlater⟩ := hnext rest
    rw [List.cons_append, hlater, breakAfterAcronym, ← hlater, hdone]
    split <;> rfl

theorem breakAtCapital_cons (hs : ∀ c ∈ suffix, c.isUpper = false) (a : Char) :
    breakAtCapital (a :: suffix) = a :: suffix := by
  induction suffix generalizing a with
  | nil => rfl
  | cons b rest ih =>
    rw [List.forall_mem_cons] at hs
    simp [breakAtCapital, hs.1, ih hs.2]

theorem breakAfterAcronym_cons (hs : ∀ c ∈ suffix, c.isUpper = false) (a : Char) :
    breakAfterAcronym (a :: suffix) = a :: suffix := by
  induction suffix generalizing a with
  | nil => rfl
  | cons b rest ih =>
    rw [List.forall_mem_cons] at hs
    cases rest with
    | nil => rfl
    | cons c rest => simp [breakAfterAcronym, hs.1, ih hs.2]

/-- An ending without capitals starts no word. -/
theorem breakAtCapital_append (hs : ∀ c ∈ suffix, c.isUpper = false) :
    breakAtCapital (cs ++ suffix) = breakAtCapital cs ++ suffix := by
  rcases ends cs with rfl | ⟨a, rfl⟩ | ⟨before, a, b, rfl⟩
  · cases suffix with
    | nil => rfl
    | cons c rest => exact breakAtCapital_cons (List.forall_mem_cons.mp hs).2 c
  · exact breakAtCapital_cons hs a
  · obtain ⟨done, hdone⟩ := exists_breakAtCapital (before ++ [a]) b
    have hall := hdone suffix
    have hnone := hdone []
    simp_all [breakAtCapital_cons, breakAtCapital]

/-- A capital after a capital starts no word of its own. -/
theorem breakAtCapital_append_pair (ha : a.isUpper) (b : Char) :
    breakAtCapital (cs ++ [a, b]) = breakAtCapital (cs ++ [a]) ++ [b] := by
  obtain ⟨done, hdone⟩ := exists_breakAtCapital cs a
  simp [hdone, breakAtCapital, isSmall_eq_false ha]

theorem endsInAcronym_breakAtCapital (cs : List Char) :
    endsInAcronym (breakAtCapital cs) = endsInAcronym cs := by
  rcases ends cs with rfl | ⟨a, rfl⟩ | ⟨before, a, b, rfl⟩
  · rfl
  · rfl
  · obtain ⟨done, hdone⟩ := exists_breakAtCapital before a
    rw [endsInAcronym_append]
    cases ha : a.isUpper with
    | true => simp [hdone, breakAtCapital, isSmall_eq_false ha, endsInAcronym_append, ha]
    | false =>
      rw [hdone, breakAtCapital]
      split
      · have hend := endsInAcronym_append (done ++ [a]) '_' b
        simpa [breakAtCapital] using hend
      · simp [breakAtCapital, endsInAcronym_append, ha]

/-- A letter that is not small ends no acronym. -/
theorem breakAfterAcronym_concat (hb : b.isLower = false) :
    breakAfterAcronym (cs ++ [b]) = breakAfterAcronym cs ++ [b] := by
  rcases ends cs with rfl | ⟨a, rfl⟩ | ⟨before, x, a, rfl⟩
  · rfl
  · rfl
  · obtain ⟨done, hdone⟩ := exists_breakAfterAcronym before x a
    simp [hdone, breakAfterAcronym, hb]

/-- An ending without capitals leaves the words of a name that ends in no acronym. -/
theorem breakAfterAcronym_append (hcs : endsInAcronym cs = false)
    (hs : ∀ c ∈ suffix, c.isUpper = false) :
    breakAfterAcronym (cs ++ suffix) = breakAfterAcronym cs ++ suffix := by
  rcases ends cs with rfl | ⟨a, rfl⟩ | ⟨before, a, b, rfl⟩
  · cases suffix with
    | nil => rfl
    | cons c rest => exact breakAfterAcronym_cons (List.forall_mem_cons.mp hs).2 c
  · exact breakAfterAcronym_cons hs a
  · obtain ⟨done, hdone⟩ := exists_breakAfterAcronym before a b
    have hpair : breakAfterAcronym (a :: b :: suffix) = a :: b :: suffix := by
      rw [endsInAcronym_append] at hcs
      cases suffix with
      | nil => rfl
      | cons c rest => simp [breakAfterAcronym, hcs, breakAfterAcronym_cons hs]
    simp [hdone, hpair, breakAfterAcronym]

/-- An ending of small letters takes the last capital of an acronym for the start of a word. -/
theorem breakAfterAcronym_append_of_acronym (ha : a.isUpper) (hb : b.isUpper) (hc : c.isLower)
    (hs : ∀ c ∈ suffix, c.isUpper = false) :
    breakAfterAcronym (cs ++ a :: b :: c :: suffix) =
      breakAfterAcronym (cs ++ [a]) ++ '_' :: b :: c :: suffix := by
  have hbreak : breakAfterAcronym (a :: b :: c :: suffix) = a :: '_' :: b :: c :: suffix := by
    have hcs : ∀ d ∈ c :: suffix, d.isUpper = false :=
      List.forall_mem_cons.mpr ⟨isUpper_eq_false hc, hs⟩
    simp [breakAfterAcronym, ha, hb, hc, breakAfterAcronym_cons hcs]
  rcases List.eq_nil_or_concat cs with rfl | ⟨before, x, rfl⟩
  · exact hbreak
  · obtain ⟨done, hdone⟩ := exists_breakAfterAcronym before x a
    have hnext : breakAfterAcronym (x :: a :: b :: c :: suffix) = x :: a :: '_' :: b ::
      c :: suffix := by
      rw [breakAfterAcronym, hbreak]
      simp [isLower_eq_false hb]
    simp [hdone, hnext, show breakAfterAcronym [x, a] = [x, a] from rfl]

/-- The same with the breaks at capitals, which the ending does not move. -/
theorem breaks_append_of_acronym (ha : a.isUpper) (hb : b.isUpper) (hc : c.isLower)
    (hs : ∀ c ∈ suffix, c.isUpper = false) :
    breakAfterAcronym (breakAtCapital (cs ++ a :: b :: c :: suffix)) =
      breakAfterAcronym (breakAtCapital (cs ++ [a])) ++ '_' :: b :: c :: suffix := by
  have hcs : ∀ d ∈ c :: suffix, d.isUpper = false :=
    List.forall_mem_cons.mpr ⟨isUpper_eq_false hc, hs⟩
  obtain ⟨done, hdone⟩ := exists_breakAtCapital cs a
  have hone : breakAtCapital (cs ++ [a]) = done ++ [a] := hdone []
  have hall : breakAtCapital (cs ++ a :: b :: c :: suffix) = done ++ a :: b :: c :: suffix := by
    rw [hdone, breakAtCapital, breakAtCapital_cons hcs]
    simp [isSmall_eq_false ha]
  rw [hone, hall, breakAfterAcronym_append_of_acronym ha hb hc hs]

end Breaks

section Spelling

variable {cs : List Char}

/-- A character that a break puts in is an underscore. -/
theorem mem_breakAtCapital {c : Char} (h : c ∈ breakAtCapital cs) : c ∈ cs ∨ c = '_' := by
  fun_induction breakAtCapital cs with
  | case1 a b rest hbreak ih => grind
  | case2 a b rest hkeep ih => grind
  | case3 cs hcs => exact .inl h

theorem mem_breakAfterAcronym {c : Char} (h : c ∈ breakAfterAcronym cs) : c ∈ cs ∨ c = '_' := by
  fun_induction breakAfterAcronym cs with
  | case1 a b d rest hbreak ih => grind
  | case2 a b d rest hkeep ih => grind
  | case3 cs hcs => exact .inl h

theorem closeGaps_eq_self (h : ∀ c ∈ cs, isGap c = false) (inGap : Bool) :
    closeGaps inGap cs = cs := by
  induction cs generalizing inGap with
  | nil => rfl
  | cons c rest ih =>
    rw [List.forall_mem_cons] at h
    simp [closeGaps, h.1, ih h.2]

theorem toNat_lt_of_isAlphanum {c : Char} (h : c.isAlphanum) :
    c.toNat < 0x80 ∧ isGap c = false := by
  rw [isAlphanum_iff, isUpper_iff, isLower_iff, isDigit_iff] at h
  refine ⟨by omega, ?_⟩
  have hhyphen : c ≠ '-' := by
    rintro rfl
    exact absurd h (by decide)
  simp [isGap, isBlank, isWhiteSpace, hhyphen]
  omega

/-- The breaks of a name of letters and digits, all in small letters. -/
theorem snake_eq {name : String} (h : ∀ c ∈ name.toList, c.isAlphanum) :
    (snake name).toList = (breakAfterAcronym (breakAtCapital name.toList)).map Char.toLower := by
  have hchar : ∀ c ∈ breakAfterAcronym (breakAtCapital name.toList), c.toNat < 0x80 ∧
    isGap c = false := by
    intro c hc
    rcases mem_breakAfterAcronym hc with hc | rfl
    · rcases mem_breakAtCapital hc with hc | rfl
      · exact toNat_lt_of_isAlphanum (h c hc)
      · decide
    · decide
  simp [snake, lower, snakeBreaks, closeGaps_eq_self fun c hc => (hchar c hc).2,
    lowerFrom_eq_map fun c hc => (hchar c hc).1]

end Spelling

section Endings

variable {name stem suffix : String} {a b : Char}

theorem map_toLower_eq_self (hs : ∀ c ∈ suffix.toList, c.isLower) :
    suffix.toList.map Char.toLower = suffix.toList := by
  refine (List.map_congr_left fun c hc => ?_).trans (List.map_id _)
  exact toLower_eq_self (isUpper_eq_false (hs c hc))

theorem isAlphanum_append (hname : ∀ c ∈ name.toList, c.isAlphanum)
    (hs : ∀ c ∈ suffix.toList, c.isLower) : ∀ c ∈ (name ++ suffix).toList, c.isAlphanum := by
  intro c hc
  rw [String.toList_append, List.mem_append] at hc
  rcases hc with hc | hc
  · exact hname c hc
  · exact isAlphanum_iff.mpr (.inl (.inr (hs c hc)))

theorem isAlphanum_of_push (hname : ∀ c ∈ (name.push b).toList, c.isAlphanum) :
    ∀ c ∈ name.toList, c.isAlphanum := by
  intro c hc
  exact hname c (by rw [String.toList_push]; exact List.mem_append_left _ hc)

/-- An ending stands after the words of a name that ends in no acronym. -/
theorem snake_append (hname : ∀ c ∈ name.toList, c.isAlphanum) (hs : ∀ c ∈ suffix.toList, c.isLower)
    (hends : endsInAcronym name.toList = false) :
      snake (name ++ suffix) = snake name ++ suffix := by
  have hcap : ∀ c ∈ suffix.toList, c.isUpper = false := fun c hc => isUpper_eq_false (hs c hc)
  have hbreaks : endsInAcronym (breakAtCapital name.toList) = false := by
    rw [endsInAcronym_breakAtCapital, hends]
  apply String.toList_injective
  rw [snake_eq (isAlphanum_append hname hs), String.toList_append,
    String.toList_append, snake_eq hname,
    breakAtCapital_append hcap, breakAfterAcronym_append hbreaks hcap, List.map_append,
    map_toLower_eq_self hs]

/-- An acronym keeps its last letter. -/
theorem snake_push (hname : ∀ c ∈ ((stem.push a).push b).toList, c.isAlphanum) (ha : a.isUpper)
    (hb : b.isUpper) : snake ((stem.push a).push b) = (snake (stem.push a)).push b.toLower := by
  apply String.toList_injective
  rw [String.toList_push, snake_eq hname, snake_eq (isAlphanum_of_push hname)]
  simp only [String.toList_push, List.append_assoc, List.singleton_append]
  rw [breakAtCapital_append_pair ha, breakAfterAcronym_concat (isLower_eq_false hb),
    List.map_append]
  rfl

/-- An ending makes the last letter of an acronym the start of a word. -/
theorem snake_append_of_acronym (hname : ∀ c ∈ ((stem.push a).push b).toList, c.isAlphanum)
    (hs : ∀ c ∈ suffix.toList, c.isLower) (hne : suffix ≠ "") (ha : a.isUpper) (hb : b.isUpper) :
    snake ((stem.push a).push b ++ suffix) = (snake (stem.push a) ++ "_").push b.toLower ++
      suffix := by
  obtain ⟨c, rest, hlist⟩ := List.exists_cons_of_ne_nil (mt String.toList_eq_nil_iff.mp hne)
  have hchars : ((stem.push a).push b ++ suffix).toList = stem.toList ++ a :: b :: c :: rest := by
    simp [hlist]
  have hsmall := hlist ▸ map_toLower_eq_self hs
  have hcap : ∀ d ∈ rest, d.isUpper = false := by
    intro d hd
    exact isUpper_eq_false (hs d (hlist ▸ List.mem_cons_of_mem c hd))
  apply String.toList_injective
  rw [snake_eq (isAlphanum_append hname hs), hchars,
    breaks_append_of_acronym ha hb (hs c (hlist ▸ List.mem_cons_self)) hcap]
  simp [snake_eq (isAlphanum_of_push hname), hsmall, hlist]

end Endings

/-- The table of an entity with an English plural. An ending of the plural stands after the words of
the name, unless the name ends in an acronym: the ending then takes the last letter of the acronym
with it, as the start of one more word. -/
theorem table_snake_eq_iff {name suffix : String} (hname : ∀ c ∈ name.toList, c.isAlphanum)
    (hsuffix : suffix = "s" ∨ suffix = "es") (hplural : plural name = name ++ suffix) :
    (table .snake name = snake name ++ suffix ↔ endsInAcronym name.toList = false) ∧
      ∀ (stem : String) (a b : Char), name = (stem.push a).push b → a.isUpper → b.isUpper →
        table .snake name = (snake (stem.push a) ++ "_").push b.toLower ++ suffix := by
  have hsmall : ∀ c ∈ suffix.toList, c.isLower := by
    rcases hsuffix with rfl | rfl <;> exact List.all_eq_true.mp (by decide)
  have hne : suffix ≠ "" := by
    rcases hsuffix with rfl | rfl <;> decide
  have htable : table .snake name = snake (name ++ suffix) := by
    rw [← hplural]
    rfl
  rw [htable]
  refine ⟨⟨fun heq => ?_, snake_append hname hsmall⟩, ?_⟩
  · rw [← Bool.not_eq_true]
    intro hends
    obtain ⟨stem, a, b, rfl, ha, hb⟩ := exists_eq_push hends
    rw [snake_append_of_acronym hname hsmall hne ha hb, snake_push hname ha hb] at heq
    have hlength := congrArg String.length heq
    simp at hlength
  · rintro stem a b rfl ha hb
    exact snake_append_of_acronym hname hsmall hne ha hb

theorem table_snake_eq_iff_api :
    (∀ c ∈ "API".toList, c.isAlphanum) ∧ plural "API" = "API" ++ "s" ∧
      table .snake "API" ≠ snake "API" ++ "s" ∧
      table .snake "API" = (snake "AP" ++ "_").push 'i' ++ "s" := by
  have hname : ∀ c ∈ "API".toList, c.isAlphanum := List.all_eq_true.mp (by decide)
  have hplural : plural "API" = "API" ++ "s" := by decide +kernel
  obtain ⟨hwords, hacronym⟩ := table_snake_eq_iff hname (.inl rfl) hplural
  exact ⟨hname, hplural, fun heq => absurd (hwords.mp heq) (by decide),
    hacronym "A" 'P' 'I' (by decide) (by decide) (by decide)⟩

end Naming
end SchemaIntents
