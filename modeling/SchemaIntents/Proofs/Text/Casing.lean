import SchemaIntents.Text.Casing
import SchemaIntents.Text.Point

/-! Letters of ASCII as ranges of codes, and what becomes of letters in another case. Texts in small
letters stay as they are: the runs of capitals lead to no place where a run starts. And no run leads
to the mark of halves. -/
namespace SchemaIntents.Text

variable {c d : Char}

section Ascii

theorem isUpper_iff : c.isUpper ↔ 65 ≤ c.toNat ∧ c.toNat ≤ 90 := by
  change decide (_ ∧ _) = true ↔ _
  rw [decide_eq_true_iff]
  exact Iff.rfl

theorem isLower_iff : c.isLower ↔ 97 ≤ c.toNat ∧ c.toNat ≤ 122 := by
  change (decide _ && decide _) = true ↔ _
  rw [Bool.and_eq_true, decide_eq_true_iff, decide_eq_true_iff]
  exact Iff.rfl

theorem isDigit_iff : c.isDigit ↔ 48 ≤ c.toNat ∧ c.toNat ≤ 57 := by
  change (decide _ && decide _) = true ↔ _
  rw [Bool.and_eq_true, decide_eq_true_iff, decide_eq_true_iff]
  exact Iff.rfl

theorem isAlphanum_iff : c.isAlphanum ↔ (c.isUpper ∨ c.isLower) ∨ c.isDigit := by
  change ((c.isUpper || c.isLower) || c.isDigit) = true ↔ _
  rw [Bool.or_eq_true, Bool.or_eq_true]

theorem isUpper_eq_false (h : c.isLower) : c.isUpper = false := by
  have hc := isLower_iff.mp h
  rw [Bool.eq_false_iff, Ne, isUpper_iff]
  omega

theorem isLower_eq_false (h : c.isUpper) : c.isLower = false := by
  have hc := isUpper_iff.mp h
  rw [Bool.eq_false_iff, Ne, isLower_iff]
  omega

theorem isDigit_eq_false (h : c.isUpper) : c.isDigit = false := by
  have hc := isUpper_iff.mp h
  rw [Bool.eq_false_iff, Ne, isDigit_iff]
  omega

theorem toLower_eq_self (h : c.isUpper = false) : c.toLower = c :=
  dif_neg (of_decide_eq_false h)

/-- Without a capital sigma, each character becomes small on its own. -/
theorem lowerFrom_of_forall {f : Char → Char} {cs : List Char} (hsigma : 'Σ' ∉ cs)
    (h : ∀ c ∈ cs, lowerChar c = [f c]) (before : List Char) : lowerFrom before cs = cs.map f := by
  induction cs generalizing before with
  | nil => rfl
  | cons c rest ih =>
    rw [List.forall_mem_cons] at h
    rw [List.mem_cons, not_or] at hsigma
    rw [lowerFrom, if_neg (Ne.symm hsigma.1), h.1, ih hsigma.2 h.2]
    rfl

theorem lowerFrom_eq_map {cs : List Char} (h : ∀ c ∈ cs, c.toNat < 0x80) (before : List Char) :
    lowerFrom before cs = cs.map Char.toLower := by
  refine lowerFrom_of_forall (fun hmem => absurd (h _ hmem) (by decide)) (fun c hc => ?_) before
  rw [lowerChar, if_pos (h c hc)]

theorem toNat_toLower (h : c.isUpper) : c.toLower.toNat = c.toNat + 32 := by
  have hc := isUpper_iff.mp h
  have hmoved : c.toLower = ⟨c.val + 32, _⟩ := dif_pos (of_decide_eq_true h)
  have hsum : c.toLower.toNat = (c.toNat + 32) % 2 ^ 32 := by
    rw [hmoved]
    exact UInt32.toNat_add _ _
  omega

theorem toNat_toUpper (h : c.isLower) : c.toUpper.toNat + 32 = c.toNat := by
  have hc := isLower_iff.mp h
  have hmoved : c.toUpper = ⟨c.val + ('A'.val - 'a'.val), _⟩ := dif_pos (isLower_iff.mp h)
  have hsum : c.toUpper.toNat = (c.toNat + ('A'.val - 'a'.val).toNat) % 2 ^ 32 := by
    rw [hmoved]
    exact UInt32.toNat_add _ _
  have hshift : ('A'.val - 'a'.val).toNat = 2 ^ 32 - 32 := by decide
  omega

theorem isUpper_toUpper (h : c.isLower) : c.toUpper.isUpper := by
  have hc := isLower_iff.mp h
  have hmoved := toNat_toUpper h
  rw [isUpper_iff]
  omega

end Ascii

namespace Run

variable {r q : Run}

/-- The place that the first of a run is moved to. -/
def low (r : Run) : Nat :=
  (r.first + r.shift).toNat

/-- The place that the last of a run is moved to. -/
def high (r : Run) : Nat :=
  (r.last + r.shift).toNat

/-- Whether all places of a run are moved to characters. -/
def leadsToChars (r : Run) : Bool :=
  0 ≤ r.first + r.shift && ((r.high < 0xD800) || (0xDFFF < r.low && r.high < 0x110000))

/-- Whether a run moves no character to a place of another: all come to lie before its first place,
behind its last, or between its steps. -/
def avoids (r q : Run) : Bool :=
  Nat.blt r.high q.first || Nat.blt q.last r.low ||
    ((r.first == r.last || r.step % q.step == 0) && r.low % q.step != q.first % q.step)

theorem covers_iff : r.covers c ↔
    r.first ≤ c.toNat ∧ c.toNat ≤ r.last ∧ (c.toNat - r.first) % r.step = 0 := by
  simp [covers, and_assoc]

/-- What a run moves comes to lie as far from its first place as it was. -/
theorem toNat_moved (hr : r.leadsToChars) (h : r.covers c) :
    (Char.ofNat (c.toNat + r.shift).toNat).toNat = r.low + (c.toNat - r.first) := by
  obtain ⟨hfirst, hlast, -⟩ := covers_iff.mp h
  simp only [leadsToChars, Bool.and_eq_true, Bool.or_eq_true, decide_eq_true_eq] at hr
  unfold low high at hr
  have hvalid : (c.toNat + r.shift).toNat.isValidChar := by
    unfold Nat.isValidChar
    omega
  rw [Char.ofNat, dif_pos hvalid, low]
  change (c.toNat + r.shift).toNat = _
  omega

/-- A run that is avoided does not cover what the other moved. -/
theorem not_covers_of_avoids (hr : r.leadsToChars) (ha : r.avoids q) (h : r.covers c)
    (hd : d.toNat = r.low + (c.toNat - r.first)) : q.covers d = false := by
  obtain ⟨hfirst, hlast, hstep⟩ := covers_iff.mp h
  rw [Bool.eq_false_iff, Ne, covers_iff]
  rintro ⟨hfirst', hlast', hstep'⟩
  simp only [avoids, Bool.or_eq_true, Bool.and_eq_true, Nat.blt_eq, beq_iff_eq, bne_iff_ne] at ha
  rcases ha with (hbefore | hbehind) | ⟨hmultiple, hbetween⟩
  · simp only [leadsToChars, Bool.and_eq_true, decide_eq_true_eq] at hr
    unfold low at hd
    unfold high at hbefore
    omega
  · omega
  · -- whatever is moved lies some steps of the other run from the first place
    have hsteps : (c.toNat - r.first) % q.step = 0 := by
      rcases hmultiple with hone | hmultiple
      · simp [show c.toNat - r.first = 0 by omega]
      · exact Nat.mod_eq_zero_of_dvd
          (Nat.dvd_trans (Nat.dvd_of_mod_eq_zero hmultiple) (Nat.dvd_of_mod_eq_zero hstep))
    apply hbetween
    calc r.low % q.step = (r.low + (c.toNat - r.first)) %
      q.step := by rw [Nat.add_mod, hsteps]; simp
      _ = (q.first + (d.toNat - q.first)) % q.step := by rw [← hd, Nat.add_sub_cancel' hfirst']
      _ = q.first % q.step := by rw [Nat.add_mod, hstep']; simp

end Run

/-- The runs of all capitals. -/
def capitalRuns : List Run :=
  ⟨0x41, 0x5A, 1, 32⟩ :: Casing.lowerRuns

/-- The one capital whose small form takes two characters. -/
def dottedRun : Run :=
  ⟨0x130, 0x130, 1, 0⟩

theorem leadsToChars_of_mem : ∀ r ∈ capitalRuns, r.leadsToChars ∧ r.avoids dottedRun :=
  by decide +kernel

theorem avoids_of_mem : ∀ r ∈ capitalRuns, ∀ q ∈ capitalRuns, r.avoids q := by
  have h : (capitalRuns.all fun r => capitalRuns.all r.avoids) = true := by decide +kernel
  simpa only [List.all_eq_true] using h

/-- A character that no run of capitals covers stays as it is. -/
theorem lowerChar_eq_self (hruns : ∀ q ∈ capitalRuns, q.covers c = false)
    (hdotted : c.toNat ≠ 0x130) : lowerChar c = [c] := by
  obtain ⟨hascii, hothers⟩ := List.forall_mem_cons.mp hruns
  unfold lowerChar
  split
  · have hupper : c.isUpper = false := by
      rw [Bool.eq_false_iff, Ne, isUpper_iff]
      simpa [Run.covers, Nat.mod_one] using hascii
    rw [toLower_eq_self hupper]
  · have hmoved : Run.moved? Casing.lowerRuns c = none := by
      simpa [Run.moved?] using hothers
    simp [hmoved]

/-- The small form of a character is the character, or where a run of capitals leads it; one capital
has a form of two characters. -/
theorem lowerChar_cases (c : Char) :
    lowerChar c = [c] ∨ lowerChar c = ['i', '\u0307'] ∨
      ∃ r ∈ capitalRuns, r.covers c ∧ ∃ d, lowerChar c = [d] ∧
        d.toNat = r.low + (c.toNat - r.first) := by
  unfold lowerChar
  split
  case isTrue hascii =>
    cases hupper : c.isUpper with
    | false => exact .inl (by rw [toLower_eq_self hupper])
    | true =>
      have hc := isUpper_iff.mp hupper
      refine .inr (.inr ⟨_, List.mem_cons_self, Run.covers_iff.mpr ?_, _, rfl, ?_⟩)
      · simpa [Nat.mod_one] using hc
      · rw [toNat_toLower hupper]
        change c.toNat + 32 = 97 + (c.toNat - 65)
        omega
  case isFalse =>
    split
    · exact .inr (.inl rfl)
    · cases hfound : Casing.lowerRuns.find? (·.covers c) with
      | none => exact .inl (by simp [Run.moved?, hfound])
      | some r =>
        have hmem : r ∈ capitalRuns := List.mem_cons_of_mem _ (List.mem_of_find?_eq_some hfound)
        have hcovers : r.covers c := List.find?_some (p := fun r => Run.covers r c) hfound
        refine .inr (.inr ⟨r, hmem, hcovers, _, ?_,
          Run.toNat_moved (leadsToChars_of_mem r hmem).1 hcovers⟩)
        simp [Run.moved?, hfound]

/-- What became small stays as it is. -/
theorem lowerChar_of_mem_lowerChar (h : d ∈ lowerChar c) : lowerChar d = [d] := by
  rcases lowerChar_cases c with hc | hc | ⟨r, hr, hcovers, e, hc, he⟩
  · rw [hc, List.mem_singleton] at h
    rwa [h]
  · rw [hc] at h
    simp only [List.mem_cons, List.not_mem_nil, or_false] at h
    rcases h with rfl | rfl <;> decide +kernel
  · rw [hc, List.mem_singleton] at h
    obtain ⟨hchars, hdotted⟩ := leadsToChars_of_mem r hr
    rw [← h] at he
    refine lowerChar_eq_self (fun q hq => Run.not_covers_of_avoids hchars
      (avoids_of_mem r hr q hq) hcovers he) ?_
    intro heq
    have hno := Run.not_covers_of_avoids hchars hdotted hcovers he
    rw [Bool.eq_false_iff, Ne, Run.covers_iff] at hno
    exact hno (by simp [dottedRun, heq])

/-- What stays as it is is no capital of ASCII. -/
theorem isUpper_eq_false_of_lowerChar (h : lowerChar c = [c]) : c.isUpper = false := by
  rw [Bool.eq_false_iff]
  intro hupper
  have hc := isUpper_iff.mp hupper
  rw [lowerChar, if_pos (by omega), List.singleton_inj] at h
  have hmoved := toNat_toLower hupper
  rw [h] at hmoved
  omega

theorem lowerChar_of_mem_lowerFrom {before cs : List Char} (h : d ∈ lowerFrom before cs) :
    lowerChar d = [d] := by
  induction cs generalizing before with
  | nil => simp [lowerFrom] at h
  | cons c rest ih =>
    rw [lowerFrom, List.mem_append] at h
    rcases h with h | h
    · split at h
      · split at h <;> (rw [List.mem_singleton] at h; subst h; decide +kernel)
      · exact lowerChar_of_mem_lowerChar h
    · exact ih h

theorem lowerFrom_eq_self {cs : List Char} (h : ∀ c ∈ cs, lowerChar c = [c]) (before : List Char) :
    lowerFrom before cs = cs := by
  have hsigma : 'Σ' ∉ cs := fun hmem => absurd (h _ hmem) (by decide +kernel)
  rw [lowerFrom_of_forall hsigma h, List.map_id']

section Marks

/-- The run of the mark of halves alone. -/
def markRun : Run :=
  ⟨0xE000, 0xE000, 1, 0⟩

theorem avoids_markRun : ∀ r ∈ capitalRuns ++ Casing.upperRuns,
    r.leadsToChars ∧ r.avoids markRun := by
  decide +kernel

/-- No run leads to the mark of halves. -/
theorem ne_halfMark_of_covers {r : Run} (hr : r ∈ capitalRuns ++ Casing.upperRuns) (h : r.covers c)
    (hd : d.toNat = r.low + (c.toNat - r.first)) : d ≠ halfMark := by
  obtain ⟨hchars, havoids⟩ := avoids_markRun r hr
  have hno := Run.not_covers_of_avoids hchars havoids h hd
  rintro rfl
  exact Bool.noConfusion (hno.symm.trans rfl)

theorem halfMark_of_mem_lowerChar (h : halfMark ∈ lowerChar c) : c = halfMark := by
  rcases lowerChar_cases c with hc | hc | ⟨r, hr, hcovers, e, hc, he⟩
  · rw [hc, List.mem_singleton] at h
    exact h.symm
  · rw [hc] at h
    exact absurd h (by decide)
  · rw [hc, List.mem_singleton] at h
    exact absurd h.symm (ne_halfMark_of_covers (List.mem_append_left _ hr) hcovers he)

theorem halfMark_of_mem_upperChar (h : halfMark ∈ upperChar c) : c = halfMark := by
  have spelled : ∀ e ∈ Casing.upperSpelled, halfMark ∉ e.2.map Char.ofNat := by decide +kernel
  unfold upperChar at h
  split at h
  · rename_i hascii
    have hc : c.toUpper.toNat = 0xE000 := by rw [← List.mem_singleton.mp h]; rfl
    cases hlower : c.isLower with
    | true =>
      have hmoved := toNat_toUpper hlower
      omega
    | false =>
      have hsame : c.toUpper = c := dif_neg fun hc =>
        Bool.noConfusion (hlower.symm.trans (isLower_iff.mpr hc))
      rw [hsame] at hc
      omega
  · split at h
    · rename_i e he
      exact absurd h (spelled e (List.mem_of_find?_eq_some he))
    · rw [List.mem_singleton] at h
      cases hfound : Casing.upperRuns.find? (·.covers c) with
      | none => simpa [Run.moved?, hfound] using h.symm
      | some r =>
        have hr : r ∈ capitalRuns ++ Casing.upperRuns :=
          List.mem_append_right _ (List.mem_of_find?_eq_some hfound)
        have hcovers : r.covers c := List.find?_some (p := fun r => Run.covers r c) hfound
        have hmoved := Run.toNat_moved (avoids_markRun r hr).1 hcovers
        simp only [Run.moved?, hfound, Option.map_some, Option.getD_some] at h
        exact absurd h.symm (ne_halfMark_of_covers hr hcovers hmoved)

theorem halfMark_of_mem_lowerFrom {before cs : List Char} (h : halfMark ∈ lowerFrom before cs) :
    halfMark ∈ cs := by
  induction cs generalizing before with
  | nil => simp [lowerFrom] at h
  | cons c rest ih =>
    rw [lowerFrom, List.mem_append] at h
    rcases h with h | h
    · split at h
      · split at h <;> exact absurd h (by decide)
      · exact List.mem_cons.mpr (.inl (halfMark_of_mem_lowerChar h).symm)
    · exact List.mem_cons_of_mem _ (ih h)

end Marks

end SchemaIntents.Text
