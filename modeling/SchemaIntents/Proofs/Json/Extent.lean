import Mathlib.Data.List.TakeWhile
import SchemaIntents.Proofs.Json.Reading

/-! How much of a text the JSON reader takes up: what it leaves is never longer than the text, so
fuel for every character is fuel enough. -/
namespace SchemaIntents.Json

variable {fuel room : Nat} {cs rest : List Char} {v : Value}

/-- A text without the minus at its head. -/
def unsigned : List Char → Bool × List Char
  | '-' :: rest => (true, rest)
  | cs => (false, cs)

/-- The whole digits at the head of a text; nothing belongs to a zero but the zero. -/
def wholeDigits : List Char → List Char × List Char
  | '0' :: rest => (['0'], rest)
  | cs => Numeral.digits cs

/-- The number of some whole digits and what follows them. -/
def numberOf (start : List Char) (negative : Bool) (whole rest : List Char) :
    Except Stop (Value × List Char) :=
  if whole.isEmpty then stop .value start
  else
    let (fraction, rest) := readFraction rest
    let (exponent, rest) := readExponent rest
    if fraction.isEmpty && exponent.isNone then
      if digitLimit < whole.length then .error (.tooManyDigits whole.length)
      else
        let n : Int := Numeral.ofDigits 10 whole
        .ok (.int (if negative then -n else n), rest)
    else
      let parts : Numeral.Parts := ⟨negative, whole, fraction, exponent.getD 0⟩
      .ok (.float parts.toBinary64, rest)

theorem readNumber_eq_numberOf (cs : List Char) : readNumber cs =
    numberOf cs (unsigned cs).1 (wholeDigits (unsigned cs).2).1 (wholeDigits (unsigned cs).2).2 :=
  rfl

theorem length_skipSpace (cs : List Char) : (skipSpace cs).length ≤ cs.length :=
  List.length_dropWhile_le _ _

theorem length_readString {opening : Nat} {pieces : List Piece} {key : String}
    (h : readString opening pieces cs = .ok (key, rest)) : rest.length < cs.length := by
  fun_induction readString opening pieces cs with
  | case2 pieces tail =>
    cases h
    simp
  | case5 _ _ _ _ _ _ _ _ _ ih =>
    have := ih h
    simp only [List.length_cons]
    omega
  | case8 _ _ _ _ _ _ _ ih =>
    have := ih h
    simp only [List.length_cons]
    omega
  | case11 _ _ _ _ _ _ _ _ ih =>
    have := ih h
    simp only [List.length_cons]
    omega
  | _ => cases h

theorem length_readWord? (h : readWord? cs = some (v, rest)) : rest.length ≤ cs.length := by
  obtain ⟨w, hw, hv⟩ := List.exists_of_findSome?_eq_some h
  split at hv
  · cases hv
    simp
  · cases hv

theorem length_readFraction (cs : List Char) : (readFraction cs).2.length ≤ cs.length := by
  unfold readFraction
  split
  · dsimp only [Numeral.digits]
    split
    · exact Nat.le_refl _
    · exact Nat.le_succ_of_le (List.length_dropWhile_le _ _)
  · exact Nat.le_refl _

theorem length_sign (cs : List Char) : (Numeral.sign cs).2.length ≤ cs.length := by
  unfold Numeral.sign
  split <;> simp

theorem length_exponent? {e : Int} (h : Numeral.exponent? cs = some (e, rest)) :
    rest.length ≤ cs.length := by
  unfold Numeral.exponent? at h
  split at h
  · cases h
    exact Nat.le_refl _
  · rename_i c more
    split at h
    · dsimp only at h
      split at h
      · cases h
      · cases h
        have hdigits := List.length_dropWhile_le Char.isDigit (Numeral.sign more).2
        have hsign := length_sign more
        simp only [Numeral.digits, List.length_cons]
        omega
    · cases h
      exact Nat.le_refl _

theorem length_readExponent (cs : List Char) : (readExponent cs).2.length ≤ cs.length := by
  unfold readExponent
  split
  · split
    · split
      · exact length_exponent? ‹_›
      · exact Nat.le_refl _
    · exact Nat.le_refl _
  · exact Nat.le_refl _

theorem length_readNumber (h : readNumber cs = .ok (v, rest)) : rest.length ≤ cs.length := by
  rw [readNumber_eq_numberOf] at h
  have hminus : (unsigned cs).2.length ≤ cs.length := by
    unfold unsigned
    split <;> simp
  have hwhole : (wholeDigits (unsigned cs).2).2.length ≤ (unsigned cs).2.length := by
    unfold wholeDigits
    split
    · rename_i hzero
      simp [hzero]
    · exact List.length_dropWhile_le _ _
  have hnumber : rest.length ≤ (wholeDigits (unsigned cs).2).2.length := by
    have hfraction := length_readFraction (wholeDigits (unsigned cs).2).2
    have hexponent := length_readExponent (readFraction (wholeDigits (unsigned cs).2).2).2
    unfold numberOf at h
    dsimp only at h
    repeat' split at h
    all_goals
      cases h
      try omega
  omega

/-- With so much fuel nothing is read but what stands at the head of a text. -/
structure ReadsHead (fuel : Nat) : Prop where
  value : ∀ {room cs v rest}, readValue fuel room cs = .ok (v, rest) → rest.length ≤ cs.length
  items : ∀ {room before cs v rest}, readItems fuel room before cs = .ok (v, rest) →
    rest.length ≤ cs.length
  entries : ∀ {room before cs v rest}, readEntries fuel room before cs = .ok (v, rest) →
    rest.length ≤ cs.length

namespace ReadsHead

theorem value_succ (ih : ReadsHead fuel) (h : readValue (fuel + 1) room cs = .ok (v, rest)) :
    rest.length ≤ cs.length := by
  rw [readValue.eq_def] at h
  dsimp only at h
  split at h
  · obtain ⟨⟨_, next⟩, hs, h⟩ := bind_eq_ok h
    cases h
    exact Nat.le_succ_of_le (Nat.le_of_lt (length_readString hs))
  · rename_i inner
    have hspace := length_skipSpace inner
    split at h
    · cases h
    split at h
    · rename_i hclose
      cases h
      simp only [hclose, List.length_cons] at hspace ⊢
      omega
    · have := ih.items h
      simp only [List.length_cons]
      omega
  · rename_i inner
    have hspace := length_skipSpace inner
    split at h
    · cases h
    split at h
    · rename_i hclose
      cases h
      simp only [hclose, List.length_cons] at hspace ⊢
      omega
    · have := ih.entries h
      simp only [List.length_cons]
      omega
  · split at h
    · cases h
      exact length_readWord? ‹_›
    · exact length_readNumber h

theorem items_succ (ih : ReadsHead fuel) {before : List Value}
    (h : readItems (fuel + 1) room before cs = .ok (v, rest)) : rest.length ≤ cs.length := by
  rw [readItems] at h
  obtain ⟨⟨w, next⟩, hw, h⟩ := bind_eq_ok h
  have hvalue := ih.value hw
  have hspace := length_skipSpace next
  dsimp only at h
  split at h
  · rename_i hclose
    cases h
    simp only [hclose, List.length_cons] at hspace
    omega
  · rename_i more hcomma
    have := ih.items h
    have hmore := length_skipSpace more
    simp only [hcomma, List.length_cons] at hspace
    omega
  · cases h

theorem entries_succ (ih : ReadsHead fuel) {before : List (String × Value)}
    (h : readEntries (fuel + 1) room before cs = .ok (v, rest)) : rest.length ≤ cs.length := by
  rw [readEntries.eq_def] at h
  dsimp only at h
  split at h
  · obtain ⟨⟨k, next⟩, hk, h⟩ := bind_eq_ok h
    have hkey := length_readString hk
    have hspace := length_skipSpace next
    dsimp only at h
    split at h
    · rename_i more hcolon
      obtain ⟨⟨w, after⟩, hw, h⟩ := bind_eq_ok h
      have hvalue := ih.value hw
      have hmore := length_skipSpace more
      have hafter := length_skipSpace after
      simp only [hcolon, List.length_cons] at hspace ⊢
      dsimp only at h
      split at h
      · rename_i hclose
        cases h
        simp only [hclose, List.length_cons] at hafter
        omega
      · rename_i others hcomma
        have := ih.entries h
        have hothers := length_skipSpace others
        simp only [hcomma, List.length_cons] at hafter
        omega
      · cases h
    · cases h
  · cases h

end ReadsHead

theorem readsHead (fuel : Nat) : ReadsHead fuel := by
  induction fuel with
  | zero => constructor <;> intros <;> rename_i h <;> cases h
  | succ fuel ih => exact ⟨ih.value_succ, ih.items_succ, ih.entries_succ⟩

/-- With so much fuel all is read that can be read with any, if the text is short enough. -/
structure ReadsAll (fuel : Nat) : Prop where
  value : ∀ {room cs x}, readValue fuel room cs = .ok x →
    ∀ more, 2 * cs.length < more → readValue more room cs = .ok x
  items : ∀ {room before cs x}, readItems fuel room before cs = .ok x →
    ∀ more, 2 * cs.length + 1 < more → readItems more room before cs = .ok x
  entries : ∀ {room before cs x}, readEntries fuel room before cs = .ok x →
    ∀ more, 2 * cs.length + 1 < more → readEntries more room before cs = .ok x

namespace ReadsAll

variable {x : Value × List Char}

theorem value_succ (ih : ReadsAll fuel) (h : readValue (fuel + 1) room cs = .ok x) (more : Nat)
    (hm : 2 * cs.length < more) : readValue more room cs = .ok x := by
  obtain ⟨more, rfl⟩ := Nat.exists_eq_add_one_of_ne_zero (show more ≠ 0 by omega)
  rw [readValue.eq_def] at h ⊢
  dsimp only at h ⊢
  split at h
  · exact h
  · rename_i inner
    have hspace := length_skipSpace inner
    rw [List.length_cons] at hm
    split at h
    · cases h
    rename_i hroom
    rw [if_neg hroom]
    split at h
    · exact h
    · exact ih.items h _ (by omega)
  · rename_i inner
    have hspace := length_skipSpace inner
    rw [List.length_cons] at hm
    split at h
    · cases h
    rename_i hroom
    rw [if_neg hroom]
    split at h
    · exact h
    · exact ih.entries h _ (by omega)
  · exact h

theorem items_succ (ih : ReadsAll fuel) {before : List Value}
    (h : readItems (fuel + 1) room before cs = .ok x) (more : Nat)
    (hm : 2 * cs.length + 1 < more) : readItems more room before cs = .ok x := by
  obtain ⟨more, rfl⟩ := Nat.exists_eq_add_one_of_ne_zero (show more ≠ 0 by omega)
  rw [readItems] at h ⊢
  obtain ⟨⟨w, next⟩, hw, h⟩ := bind_eq_ok h
  have hnext := (readsHead _).value hw
  have hspace := length_skipSpace next
  rw [ih.value hw more (by omega)]
  dsimp only [bind, Except.bind] at h ⊢
  split at h
  · exact h
  · rename_i others hcomma
    have hothers := length_skipSpace others
    rw [hcomma, List.length_cons] at hspace
    exact ih.items h _ (by omega)
  · cases h

theorem entries_succ (ih : ReadsAll fuel) {before : List (String × Value)}
    (h : readEntries (fuel + 1) room before cs = .ok x) (more : Nat)
    (hm : 2 * cs.length + 1 < more) : readEntries more room before cs = .ok x := by
  obtain ⟨more, rfl⟩ := Nat.exists_eq_add_one_of_ne_zero (show more ≠ 0 by omega)
  rw [readEntries.eq_def] at h ⊢
  dsimp only at h ⊢
  split at h
  · obtain ⟨⟨k, next⟩, hk, h⟩ := bind_eq_ok h
    have hkey := length_readString hk
    have hspace := length_skipSpace next
    rw [List.length_cons] at hm
    simp only [hk, bind, Except.bind] at h ⊢
    split at h
    · rename_i inner hcolon
      obtain ⟨⟨w, after⟩, hw, h⟩ := bind_eq_ok h
      have hinner := length_skipSpace inner
      have hnext := (readsHead _).value hw
      have hafter := length_skipSpace after
      rw [hcolon, List.length_cons] at hspace
      rw [ih.value hw more (by omega)]
      dsimp only at h ⊢
      split at h
      · exact h
      · rename_i others hcomma
        have hothers := length_skipSpace others
        rw [hcomma, List.length_cons] at hafter
        exact ih.entries h _ (by omega)
      · cases h
    · cases h
  · cases h

end ReadsAll

theorem readsAll (fuel : Nat) : ReadsAll fuel := by
  induction fuel with
  | zero => constructor <;> intros <;> rename_i h _ _ <;> cases h
  | succ fuel ih => exact ⟨ih.value_succ, ih.items_succ, ih.entries_succ⟩

end SchemaIntents.Json
