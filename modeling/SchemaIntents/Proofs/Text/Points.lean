import Mathlib.Data.List.Basic
import Mathlib.Tactic.MkIffOfInductiveProp
import SchemaIntents.Text.Point

/-! What strings hold: the code points that are put into one come out of it again, and a string has
halves of pairs just where one that it is made of has. -/
namespace SchemaIntents.Text

variable {c : Char} {cs ds : List Char} {s t : String}

theorem isMark_eq_true : isMark c = true ↔ c = halfMark ∨ c = ownMark := by
  simp [isMark]

theorem toNat_sign {n : Nat} (h : n < 2048) : (sign n).toNat = 0xF0000 + n := by
  have hvalid : (0xF0000 + n).isValidChar := .inr ⟨by omega, by omega⟩
  rw [sign, Char.ofNat, dif_pos hvalid]
  rfl

theorem ofNat_toNat_sign {n : Nat} (h : n < 2048) : Fin.ofNat 2048 (sign n).toNat = ⟨n, h⟩ := by
  apply Fin.ext
  rw [Fin.val_ofNat, toNat_sign h]
  show _ = n
  omega

theorem ofPair?_sign (m : Char) (h : Fin 2048) :
    Point.ofPair? m (sign h) = if m = halfMark then some (.half h)
      else if m = ownMark ∧ h < 2 then some (.char (if h = 0 then halfMark else ownMark))
      else none := by
  simp only [Point.ofPair?, ofNat_toNat_sign h.isLt, Fin.eta, ne_eq, not_true_eq_false, if_false]

theorem ofPair?_halfMark (h : Fin 2048) : Point.ofPair? halfMark (sign h) = some (.half h) := by
  rw [ofPair?_sign, if_pos rfl]

theorem ofPair?_ownMark (h : isMark c = true) :
    Point.ofPair? ownMark (sign (if c = halfMark then 0 else 1)) = some (.char c) := by
  rcases isMark_eq_true.mp h with rfl | rfl
  · exact (ofPair?_sign ownMark 0).trans (by decide)
  · exact (ofPair?_sign ownMark 1).trans (by decide)

theorem ofPair?_of_not_isMark (h : isMark c = false) (d : Char) : Point.ofPair? c d = none := by
  have hmarks : c ≠ halfMark ∧ c ≠ ownMark := by simpa [isMark] using h
  simp [Point.ofPair?, hmarks]

theorem points_of_pair {m d : Char} {p : Point} (h : Point.ofPair? m d = some p)
    (rest : List Char) : points (m :: d :: rest) = p :: points rest := by
  simp only [points, h]

theorem points_cons_of_not_isMark (h : isMark c = false) (rest : List Char) :
    points (c :: rest) = .char c :: points rest := by
  cases rest with
  | nil => rfl
  | cons d rest => simp only [points, ofPair?_of_not_isMark h]

theorem held_of_not_isMark (h : isMark c = false) : (Point.char c).held = [c] := by
  simp [Point.held, h]

/-- A code point comes first out of what holds it, whatever follows. -/
theorem points_held_append (p : Point) (rest : List Char) :
    points (p.held ++ rest) = p :: points rest := by
  cases p with
  | half h => exact points_of_pair (ofPair?_halfMark h) rest
  | char c =>
    cases h : isMark c with
    | true =>
      rw [Point.held, if_pos h]
      exact points_of_pair (ofPair?_ownMark h) rest
    | false => rw [held_of_not_isMark h, List.singleton_append, points_cons_of_not_isMark h]

theorem points_flatMap_held (ps : List Point) : points (ps.flatMap Point.held) = ps := by
  induction ps with
  | nil => rfl
  | cons p ps ih => rw [List.flatMap_cons, points_held_append, ih]

theorem points_hold (cs : List Char) : points (hold cs) = cs.map Point.char := by
  rw [← points_flatMap_held (cs.map .char), List.flatMap_map, hold]

theorem release_hold (cs : List Char) : release (hold cs) = cs := by
  simp [release, points_hold, Function.comp_def, Point.char?]

theorem release?_hold (cs : List Char) : release? (hold cs) = some cs := by
  rw [release?, release_hold, if_pos rfl]

theorem release?_eq_some : release? cs = some ds ↔ hold ds = cs := by
  constructor
  · intro h
    rw [release?] at h
    split at h
    · rename_i hsame
      rwa [← Option.some.inj h]
    · cases h
  · rintro rfl
    exact release?_hold ds

theorem hold_eq_self (h : ∀ c ∈ cs, isMark c = false) : hold cs = cs := by
  induction cs with
  | nil => rfl
  | cons c cs ih =>
    rw [List.forall_mem_cons] at h
    rw [hold, List.flatMap_cons, held_of_not_isMark h.1, ← hold, ih h.2, List.singleton_append]

/-- A text with something in it, and without halves of pairs. -/
@[mk_iff]
structure IsProper (s : String) : Prop where
  whole : isTorn s = false
  ne : s ≠ ""

instance : DecidablePred IsProper := fun s => decidable_of_iff' _ (isProper_iff s)

section Torn

@[simp] theorem isTorn_append : isTorn (s ++ t) = (isTorn s || isTorn t) := by
  simp only [isTorn, String.toList_append, List.contains_eq_any_beq, List.any_append]

@[simp] theorem isTorn_repr (n : Nat) : isTorn n.repr = false := by
  have digits : ∀ c ∈ n.repr.toList, c.isDigit = true := by
    intro c hc
    exact Nat.isDigit_of_mem_toDigits (b := 10) (n := n) (by decide) (by decide) (by simpa using hc)
  rw [isTorn, List.contains_eq_mem, decide_eq_false_iff_not]
  exact fun h => absurd (digits _ h) (by decide)

theorem isTorn_intercalate {separator : String} {ts : List String} (hs : isTorn separator = false)
    (h : ∀ t ∈ ts, isTorn t = false) : isTorn (separator.intercalate ts) = false := by
  induction ts with
  | nil => rfl
  | cons t ts ih =>
    rw [List.forall_mem_cons] at h
    cases ts with
    | nil => simpa using h.1
    | cons u us => simp [String.intercalate_cons_cons, hs, h.1, ih h.2]

@[simp] theorem isTorn_ofList : isTorn (String.ofList cs) = cs.contains halfMark := by
  rw [isTorn, String.toList_ofList]

theorem mendedFrom_eq_self (h : halfMark ∉ cs) : mendedFrom false cs = cs := by
  induction cs with
  | nil => rfl
  | cons c cs ih =>
    rw [List.mem_cons, not_or] at h
    simp [mendedFrom, Ne.symm h.1, ih h.2]

theorem mended_eq_self (h : isTorn s = false) : mended s = s := by
  rw [mended, mendedFrom_eq_self (by simpa [isTorn] using h), String.ofList_toList]

theorem halfMark_not_mem_mendedFrom (marked : Bool) (cs : List Char) :
    halfMark ∉ mendedFrom marked cs := by
  induction cs generalizing marked with
  | nil => simp [mendedFrom]
  | cons c cs ih =>
    have hmark : halfMark ≠ '\uFFFD' := by decide
    cases marked with
    | true => exact ih false
    | false =>
      by_cases hc : c = halfMark
      · simp [mendedFrom, hc, hmark, ih]
      · simp [mendedFrom, hc, Ne.symm hc, ih]

@[simp] theorem isTorn_mended : isTorn (mended s) = false := by
  rw [mended, isTorn_ofList]
  simpa using halfMark_not_mem_mendedFrom false s.toList

end Torn

@[simp] theorem size_eq_zero : size cs = 0 ↔ cs = [] := by
  match cs with
  | [] => simp [size, points]
  | [c] => simp [size, points]
  | c :: d :: rest =>
    rw [size, points]
    split <;> simp

theorem length_held_le (p : Point) : p.held.length ≤ 2 := by
  cases p with
  | half h => exact Nat.le_refl 2
  | char c => cases hc : isMark c <;> simp [Point.held, hc]

/-- A text has a code point unless it is empty, and none of them takes more than two characters. -/
theorem exists_mem_letters (h : s ≠ "") : ∃ t ∈ letters s, t.length ≤ 2 := by
  obtain ⟨p, hp⟩ : ∃ p, p ∈ points s.toList := by
    refine List.exists_mem_of_ne_nil _ fun hnone => h ?_
    have hsize : size s.toList = 0 := by rw [size, hnone, List.length_nil]
    exact String.toList_eq_nil_iff.mp (size_eq_zero.mp hsize)
  exact ⟨String.ofList p.held, List.mem_map_of_mem hp, by simpa using length_held_le p⟩

/-- A text without marks is as long as the string that holds it. -/
theorem size_eq_length (h : ∀ c ∈ cs, isMark c = false) : size cs = cs.length := by
  rw [size, ← hold_eq_self h, points_hold, List.length_map, hold_eq_self h]

section Holding

/-- Whether characters hold a text without halves of pairs, read on after the mark of a mark or
after any other character. -/
def holdsOn (marked : Bool) : List Char → Bool
  | [] => !marked
  | c :: cs =>
    if marked then (c == sign 0 || c == sign 1) && holdsOn false cs
    else c != halfMark && holdsOn (c == ownMark) cs

theorem holdsOn_hold (cs : List Char) : holdsOn false (hold cs) = true := by
  have marks : ownMark ≠ halfMark := by decide
  induction cs with
  | nil => rfl
  | cons c cs ih =>
    rw [hold, List.flatMap_cons, ← hold]
    cases hc : isMark c with
    | true => rcases isMark_eq_true.mp hc with rfl | rfl <;>
        simp [Point.held, isMark, holdsOn, ih, marks]
    | false =>
      have hmarks : c ≠ halfMark ∧ c ≠ ownMark := by simpa [isMark] using hc
      have hown : (c == ownMark) = false := beq_eq_false_iff_ne.mpr hmarks.2
      simp [held_of_not_isMark hc, holdsOn, hmarks.1, hown, ih]

theorem exists_hold_eq {marked : Bool} (h : holdsOn marked cs = true) :
    ∃ ds, hold ds = if marked then ownMark :: cs else cs := by
  induction cs generalizing marked with
  | nil =>
    obtain rfl : marked = false := by simpa [holdsOn] using h
    exact ⟨[], rfl⟩
  | cons c cs ih =>
    cases marked with
    | true =>
      simp only [holdsOn, if_true, Bool.and_eq_true, Bool.or_eq_true, beq_iff_eq] at h
      obtain ⟨ds, hds⟩ := ih h.2
      rcases h.1 with rfl | rfl
      · exact ⟨halfMark :: ds, congrArg ([ownMark, sign 0] ++ ·) hds⟩
      · exact ⟨ownMark :: ds, congrArg ([ownMark, sign 1] ++ ·) hds⟩
    | false =>
      simp only [holdsOn, Bool.false_eq_true, if_false, Bool.and_eq_true, bne_iff_ne] at h
      obtain ⟨ds, hds⟩ := ih h.2
      by_cases hc : c = ownMark
      · exact ⟨ds, by simpa [hc] using hds⟩
      · have hplain : isMark c = false := by simp [isMark, h.1, hc]
        refine ⟨c :: ds, ?_⟩
        rw [hold, List.flatMap_cons, ← hold, held_of_not_isMark hplain, hds]
        simp [hc]

/-- A text without halves is released from just those characters. -/
theorem isSome_release? : (release? cs).isSome = holdsOn false cs := by
  rw [Bool.eq_iff_iff, Option.isSome_iff_exists]
  constructor
  · rintro ⟨ds, hds⟩
    rw [← release?_eq_some.mp hds]
    exact holdsOn_hold ds
  · intro h
    obtain ⟨ds, hds⟩ := exists_hold_eq h
    exact ⟨ds, release?_eq_some.mpr hds⟩

/-- What stands around a character below all marks holds its text or not on either side alone. -/
theorem holdsOn_append_cons (hc : c.toNat < 0xE000) (marked : Bool) :
    holdsOn marked (cs ++ c :: ds) = (holdsOn marked cs && holdsOn false ds) := by
  induction cs generalizing marked with
  | nil =>
    have other : ∀ d : Char, 0xE000 ≤ d.toNat → c ≠ d := by
      rintro d hd rfl
      omega
    have hhalf : c ≠ halfMark := other _ (by decide)
    have hown : (c == ownMark) = false := beq_eq_false_iff_ne.mpr (other _ (by decide))
    have h0 : c ≠ sign 0 := other _ (by decide)
    have h1 : c ≠ sign 1 := other _ (by decide)
    cases marked <;> simp [holdsOn, hhalf, hown, h0, h1]
  | cons d cs ih => cases marked <;> simp [holdsOn, ih, Bool.and_assoc]

theorem holdsOn_cons (hc : c.toNat < 0xE000) (marked : Bool) :
    holdsOn marked (c :: cs) = (!marked && holdsOn false cs) :=
  @holdsOn_append_cons c [] cs hc marked

theorem holdsOn_append (hcs : ∀ c ∈ cs, c.toNat < 0xE000) (hne : cs ≠ []) (marked : Bool) :
    holdsOn marked (cs ++ ds) = (!marked && holdsOn false ds) := by
  induction cs generalizing marked with
  | nil => exact absurd rfl hne
  | cons c cs ih =>
    rw [List.forall_mem_cons] at hcs
    rw [List.cons_append, holdsOn_cons hcs.1]
    by_cases hrest : cs = []
    · simp [hrest]
    · rw [ih hcs.2 hrest]
      rfl

/-- What stands around characters below all marks holds its text or not on either side alone. -/
theorem holdsOn_append_append {es : List Char} (hds : ∀ d ∈ ds, d.toNat < 0xE000) (hne : ds ≠ [])
    (marked : Bool) :
    holdsOn marked (cs ++ (ds ++ es)) = (holdsOn marked cs && holdsOn false es) := by
  obtain ⟨d, ds, rfl⟩ := List.exists_cons_of_ne_nil hne
  rw [List.forall_mem_cons] at hds
  rw [List.cons_append, holdsOn_append_cons hds.1]
  by_cases hrest : ds = []
  · simp [hrest]
  · simp [holdsOn_append hds.2 hrest]

theorem holdsOn_of_forall (hcs : ∀ c ∈ cs, c.toNat < 0xE000) : holdsOn false cs = true := by
  by_cases hne : cs = []
  · rw [hne]
    rfl
  · have hend := @holdsOn_append cs [] hcs hne false
    simpa [holdsOn] using hend

end Holding
end SchemaIntents.Text
