import SchemaIntents.Proofs.Json.Extent
import SchemaIntents.Proofs.Json.Rereading

/-! Texts that ask the JSON reader for too much: a whole number of too many digits, or a list or
mapping inside too many others. -/
namespace SchemaIntents.Json

variable {n fuel room : Nat} {cs rest more : List Char} {v : Value} {s : Stop}

/-- A whole number ends here: no digit, no fraction and no exponent goes on with it. -/
structure EndsWhole (rest : List Char) : Prop where
  digit : ∀ c ∈ rest.head?, c.isDigit = false
  fraction : ∀ c more, rest = '.' :: c :: more → c.isDigit = false
  exponent : ∀ e more, rest = e :: more → e = 'e' ∨ e = 'E' →
    ∀ c ∈ (Numeral.sign more).2.head?, c.isDigit = false

/-- A whole number without its sign, of that many digits and more than are read. -/
inductive LongDigits : Nat → List Char → Prop
  | mk {ds rest : List Char} (digits : ∀ c ∈ ds, c.isDigit = true) (lead : ds.head? ≠ some '0')
      (long : digitLimit < ds.length) (ends : EndsWhole rest) : LongDigits ds.length (ds ++ rest)

/-- A whole number of too many digits starts here. -/
def LongNumber (n : Nat) (cs : List Char) : Prop :=
  LongDigits n cs ∨ ∃ ds, cs = '-' :: ds ∧ LongDigits n ds

theorem readFraction_eq_nil : (readFraction rest).1 = [] ↔
    ∀ c more, rest = '.' :: c :: more → c.isDigit = false := by
  unfold readFraction
  split
  · rename_i inner
    cases inner with
    | nil => simp [Numeral.digits]
    | cons c more => cases hc : c.isDigit <;> simp [Numeral.digits, hc]
  · rename_i h
    simp only [true_iff]
    rintro c more rfl
    exact absurd rfl (h _)

theorem snd_readFraction (h : (readFraction rest).1 = []) : (readFraction rest).2 = rest := by
  revert h
  unfold readFraction
  split
  · dsimp only
    split
    · exact fun _ => rfl
    · exact fun h => absurd (List.isEmpty_iff.mpr h) ‹_›
  · exact fun _ => rfl

theorem readExponent_eq_none : (readExponent rest).1 = none ↔
    ∀ e more, rest = e :: more → e = 'e' ∨ e = 'E' →
      ∀ c ∈ (Numeral.sign more).2.head?, c.isDigit = false := by
  cases rest with
  | nil => simp [readExponent]
  | cons e more =>
    by_cases he : e = 'e' ∨ e = 'E'
    · cases hs : (Numeral.sign more).2 with
      | nil => simp [readExponent, Numeral.exponent?, Numeral.digits, he, hs]
      | cons c cs =>
        cases hc : c.isDigit
        · simp [readExponent, Numeral.exponent?, Numeral.digits, he, hs, hc]
        · simp [readExponent, Numeral.exponent?, Numeral.digits, he, hs, hc]
          exact Or.resolve_left he
    · simp [readExponent, he]

theorem EndsWhole.takeWhile_isDigit (h : EndsWhole rest) : rest.takeWhile Char.isDigit = [] := by
  cases rest with
  | nil => rfl
  | cons c rest => simp [h.digit c rfl]

theorem numberOf_eq_error {start whole : List Char} {negative : Bool} :
    numberOf start negative whole rest = .error (.tooManyDigits n) ↔
      n = whole.length ∧ digitLimit < n ∧ (readFraction rest).1 = [] ∧
        (readExponent rest).1 = none := by
  unfold numberOf
  by_cases hnil : whole = []
  · subst hnil
    simp only [List.isEmpty_nil, if_true, stop, List.length_nil]
    constructor
    · intro h
      cases h
    · rintro ⟨rfl, h, -⟩
      exact absurd h (by decide)
  by_cases hf : (readFraction rest).1 = []
  · simp only [List.isEmpty_iff, hnil, if_false, hf, snd_readFraction hf, List.isEmpty_nil,
      Bool.true_and, Option.isNone_iff_eq_none]
    by_cases he : (readExponent rest).1 = none
    · by_cases hlong : digitLimit < whole.length
      · simp [he, hlong]
        grind
      · simp [he, hlong]
        grind
    · simp [he]
  · simp [hnil, hf]

theorem endsWhole_of_digits (hf : (readFraction (Numeral.digits cs).2).1 = [])
    (he : (readExponent (Numeral.digits cs).2).1 = none) : EndsWhole (Numeral.digits cs).2 where
  digit c hc := by
    have hnot := List.head?_dropWhile_not Char.isDigit cs
    rw [show (cs.dropWhile Char.isDigit).head? = some c from hc] at hnot
    simpa using hnot
  fraction := readFraction_eq_nil.mp hf
  exponent := readExponent_eq_none.mp he

theorem digits_append {ds : List Char} (hd : ∀ c ∈ ds, c.isDigit = true) (h : EndsWhole rest) :
    Numeral.digits (ds ++ rest) = (ds, rest) := by
  have hsplit := List.takeWhile_append_dropWhile (p := Char.isDigit) (l := rest)
  rw [h.takeWhile_isDigit, List.nil_append] at hsplit
  rw [Numeral.digits, List.takeWhile_append_of_pos hd, List.dropWhile_append_of_pos hd,
    h.takeWhile_isDigit, hsplit, List.append_nil]

theorem longDigits_iff : LongDigits n cs ↔
    n = (wholeDigits cs).1.length ∧ digitLimit < n ∧ (readFraction (wholeDigits cs).2).1 = [] ∧
      (readExponent (wholeDigits cs).2).1 = none := by
  constructor
  · rintro ⟨hd, hlead, hlong, hends⟩
    rename_i ds rest
    have hwhole : wholeDigits (ds ++ rest) = (ds, rest) := by
      rw [← digits_append hd hends]
      unfold wholeDigits
      split
      · rename_i more hzero
        cases ds with
        | nil => exact absurd hlong (by simp)
        | cons c ds => exact absurd (congrArg List.head? hzero) (by simpa using hlead)
      · rfl
    rw [hwhole]
    exact ⟨rfl, hlong, readFraction_eq_nil.mpr hends.fraction,
      readExponent_eq_none.mpr hends.exponent⟩
  · unfold wholeDigits
    split
    · rintro ⟨rfl, hlong, -⟩
      simp [digitLimit] at hlong
    · rename_i hzero
      rintro ⟨rfl, hlong, hf, he⟩
      have hlead : (Numeral.digits cs).1.head? ≠ some '0' := by
        cases cs with
        | nil => simp [Numeral.digits]
        | cons c cs =>
          have hc : c ≠ '0' := fun he => hzero cs (he ▸ rfl)
          cases hd : c.isDigit <;> simp [Numeral.digits, hd, hc]
      have hd : ∀ c ∈ (Numeral.digits cs).1, c.isDigit = true := fun c hc =>
        List.mem_takeWhile_imp hc
      have := LongDigits.mk hd hlead hlong (endsWhole_of_digits hf he)
      rwa [show (Numeral.digits cs).1 ++ (Numeral.digits cs).2 = cs from
        List.takeWhile_append_dropWhile] at this

theorem LongDigits.exists_digit (h : LongDigits n cs) :
    ∃ c ds, cs = c :: ds ∧ c.isDigit = true := by
  obtain ⟨hd, -, hlong, -⟩ := h
  rename_i ds rest
  cases ds with
  | nil => exact absurd hlong (by simp)
  | cons c ds => exact ⟨c, ds ++ rest, rfl, hd c List.mem_cons_self⟩

theorem not_longDigits_minus : ¬LongDigits n ('-' :: cs) := by
  intro h
  obtain ⟨c, ds, hcs, hc⟩ := h.exists_digit
  cases hcs
  simp at hc

/-- A number is refused for its digits just when it is a whole one with too many. -/
theorem readNumber_eq_error : readNumber cs = .error (.tooManyDigits n) ↔ LongNumber n cs := by
  rw [readNumber_eq_numberOf, numberOf_eq_error, ← longDigits_iff, LongNumber]
  unfold unsigned
  split
  · simp [not_longDigits_minus]
  · rename_i hminus
    constructor
    · exact .inl
    · rintro (h | ⟨ds, rfl, -⟩)
      · exact h
      · exact absurd rfl (hminus ds)

/-- A value is read from the head of a text, inside so many lists and mappings, and this is left. -/
def Reads (room : Nat) (cs rest : List Char) : Prop :=
  ∃ fuel v, readValue fuel room cs = .ok (v, rest)

/-- A key stands at the head of a text, and this is left after its colon. -/
def HasKey (cs rest : List Char) : Prop :=
  ∃ inner key next after, cs = '"' :: inner ∧
    readString cs.length [] inner = .ok (key, next) ∧ skipSpace next = ':' :: after ∧
    rest = skipSpace after

/-- What is read at a place: a value, or what is left of a list or of a mapping. -/
inductive Part where
  | value
  | items
  | entries

/-- A text asks for too much: where a value may start, after what can be read, there stands a whole
number of too many digits, or the bracket of one more list or mapping than may lie inside each
other. -/
inductive Overflows : Stop → Part → Nat → List Char → Prop
  | digits {n room : Nat} {cs : List Char} (h : LongNumber n cs) :
    Overflows (.tooManyDigits n) .value room cs
  | array (cs : List Char) : Overflows (.tooDeep .array) .value 0 ('[' :: cs)
  | object (cs : List Char) : Overflows (.tooDeep .object) .value 0 ('\x7b' :: cs)
  | inArray {s : Stop} {room : Nat} {cs : List Char} (h : Overflows s .items room (skipSpace cs)) :
    Overflows s .value (room + 1) ('[' :: cs)
  | inObject {s : Stop} {room : Nat} {cs : List Char}
    (h : Overflows s .entries room (skipSpace cs)) : Overflows s .value (room + 1) ('\x7b' :: cs)
  | item {s : Stop} {room : Nat} {cs : List Char} (h : Overflows s .value room cs) :
    Overflows s .items room cs
  | laterItem {s : Stop} {room : Nat} {cs rest more : List Char} (hv : Reads room cs rest)
    (hc : skipSpace rest = ',' :: more) (h : Overflows s .items room (skipSpace more)) :
    Overflows s .items room cs
  | entry {s : Stop} {room : Nat} {cs inner : List Char} (hk : HasKey cs inner)
    (h : Overflows s .value room inner) : Overflows s .entries room cs
  | laterEntry {s : Stop} {room : Nat} {cs inner rest more : List Char} (hk : HasKey cs inner)
    (hv : Reads room inner rest) (hc : skipSpace rest = ',' :: more)
    (h : Overflows s .entries room (skipSpace more)) : Overflows s .entries room cs

/-- With so much fuel the reader stops for nothing but what the text lacks or asks for. -/
structure StopsAt (fuel : Nat) : Prop where
  value : ∀ {room cs s}, readValue fuel room cs = .error s →
    (∃ problem left, s = .at problem left) ∨ Overflows s .value room cs
  items : ∀ {room before cs s}, readItems fuel room before cs = .error s →
    (∃ problem left, s = .at problem left) ∨ Overflows s .items room cs
  entries : ∀ {room before cs s}, readEntries fuel room before cs = .error s →
    (∃ problem left, s = .at problem left) ∨ Overflows s .entries room cs

/-- Only the text itself can be wrong with a string. -/
theorem exists_at_of_readString {opening : Nat} {pieces : List Piece}
    (h : readString opening pieces cs = .error s) : ∃ problem left, s = .at problem left := by
  fun_induction readString opening pieces cs with
  | case2 => cases h
  | case5 _ _ _ _ _ _ _ _ _ ih => exact ih h
  | case8 _ _ _ _ _ _ _ ih => exact ih h
  | case11 _ _ _ _ _ _ _ _ ih => exact ih h
  | _ =>
    cases h
    exact ⟨_, _, rfl⟩

/-- A number that is not read lacks its digits or has too many. -/
theorem readNumber_error (h : readNumber cs = .error s) :
    (∃ problem left, s = .at problem left) ∨ ∃ n, s = .tooManyDigits n := by
  unfold readNumber at h
  dsimp only at h
  repeat' split at h
  all_goals
    cases h
    try exact .inl ⟨_, _, rfl⟩
    try exact .inr ⟨_, rfl⟩

namespace StopsAt

theorem value_succ (ih : StopsAt fuel) (h : readValue (fuel + 1) room cs = .error s) :
    (∃ problem left, s = .at problem left) ∨ Overflows s .value room cs := by
  rw [readValue.eq_def] at h
  dsimp only at h
  split at h
  · rcases bind_eq_error h with h | ⟨_, -, h⟩
    · exact .inl (exists_at_of_readString h)
    · cases h
  · split at h
    · rename_i hroom
      cases h
      exact .inr (hroom ▸ .array _)
    · rename_i hroom
      obtain ⟨room, rfl⟩ := Nat.exists_eq_add_one_of_ne_zero hroom
      split at h
      · cases h
      · exact (ih.items h).imp_right .inArray
  · split at h
    · rename_i hroom
      cases h
      exact .inr (hroom ▸ .object _)
    · rename_i hroom
      obtain ⟨room, rfl⟩ := Nat.exists_eq_add_one_of_ne_zero hroom
      split at h
      · cases h
      · exact (ih.entries h).imp_right .inObject
  · split at h
    · cases h
    · rcases readNumber_error h with hat | ⟨n, rfl⟩
      · exact .inl hat
      · exact .inr (.digits (readNumber_eq_error.mp h))

theorem items_succ (ih : StopsAt fuel) {before : List Value}
    (h : readItems (fuel + 1) room before cs = .error s) :
    (∃ problem left, s = .at problem left) ∨ Overflows s .items room cs := by
  rw [readItems] at h
  rcases bind_eq_error h with h | ⟨⟨w, next⟩, hw, h⟩
  · exact (ih.value h).imp_right .item
  dsimp only at h
  split at h
  · cases h
  · exact (ih.items h).imp_right (.laterItem ⟨_, _, hw⟩ ‹_›)
  · cases h
    exact .inl ⟨_, _, rfl⟩

theorem entries_succ (ih : StopsAt fuel) {before : List (String × Value)}
    (h : readEntries (fuel + 1) room before cs = .error s) :
    (∃ problem left, s = .at problem left) ∨ Overflows s .entries room cs := by
  rw [readEntries.eq_def] at h
  dsimp only at h
  split at h
  · rename_i inner
    rcases bind_eq_error h with h | ⟨⟨key, next⟩, hk, h⟩
    · exact .inl (exists_at_of_readString h)
    dsimp only at h
    split at h
    · rename_i after hcolon
      have hkey : HasKey ('"' :: inner) (skipSpace after) :=
        ⟨inner, key, next, after, rfl, hk, hcolon, rfl⟩
      rcases bind_eq_error h with h | ⟨⟨w, more⟩, hw, h⟩
      · exact (ih.value h).imp_right (.entry hkey)
      dsimp only at h
      split at h
      · cases h
      · exact (ih.entries h).imp_right (.laterEntry hkey ⟨_, _, hw⟩ ‹_›)
      · cases h
        exact .inl ⟨_, _, rfl⟩
    · cases h
      exact .inl ⟨_, _, rfl⟩
  · cases h
    exact .inl ⟨_, _, rfl⟩

end StopsAt

theorem stopsAt (fuel : Nat) : StopsAt fuel := by
  induction fuel with
  | zero =>
    constructor <;> intros <;> rename_i h <;> cases h <;> exact .inl ⟨_, _, rfl⟩
  | succ fuel ih => exact ⟨ih.value_succ, ih.items_succ, ih.entries_succ⟩

/-- A number with too many digits is refused where a value is read. -/
theorem readValue_of_longNumber (h : LongNumber n cs) :
    readValue (fuel + 1) room cs = .error (.tooManyDigits n) := by
  have hnumber := readNumber_eq_error.mpr h
  obtain ⟨c, ds, hcs, hc⟩ : ∃ c ds, (cs = c :: ds ∨ cs = '-' :: c :: ds) ∧ c.isDigit = true := by
    rcases h with h | ⟨ds, rfl, h⟩
    · obtain ⟨c, ds, rfl, hc⟩ := h.exists_digit
      exact ⟨c, ds, .inl rfl, hc⟩
    · obtain ⟨c, ds, rfl, hc⟩ := h.exists_digit
      exact ⟨c, ds, .inr rfl, hc⟩
  have other {d : Char} (hd : d.isDigit = false) : c ≠ d := by
    rintro rfl
    simp [hc] at hd
  rcases hcs with rfl | rfl
  · rw [readValue_scalar (other (by decide)) (other (by decide)) (other (by decide)),
      readWord?_eq_none hc (by simp)]
    exact hnumber
  · rw [readValue_scalar (by decide) (by decide) (by decide), readWord?_eq_none hc (by simp)]
    exact hnumber

/-- What is said of a part that stops, with enough fuel. -/
def Part.Stops (s : Stop) (room : Nat) (cs : List Char) : Part → Prop
  | .value => ∀ fuel, 2 * cs.length < fuel → readValue fuel room cs = .error s
  | .items => ∀ fuel before, 2 * cs.length + 1 < fuel → readItems fuel room before cs = .error s
  | .entries => ∀ fuel before, 2 * cs.length + 1 < fuel → readEntries fuel room before cs = .error s

theorem Reads.readValue (h : Reads room cs rest) : ∃ v, rest.length ≤ cs.length ∧
    ∀ fuel, 2 * cs.length < fuel → Json.readValue fuel room cs = .ok (v, rest) := by
  obtain ⟨fuel, v, h⟩ := h
  exact ⟨v, (readsHead fuel).value h, (readsAll fuel).value h⟩

theorem HasKey.length (h : HasKey cs rest) : rest.length < cs.length := by
  obtain ⟨inner, key, next, after, rfl, hkey, hcolon, rfl⟩ := h
  have hstring := length_readString hkey
  have hnext := length_skipSpace next
  have hafter := length_skipSpace after
  rw [hcolon, List.length_cons] at hnext
  rw [List.length_cons]
  omega

theorem Overflows.ne_at {part : Part} {problem : Problem} {left : Nat}
    (h : Overflows s part room cs) : s ≠ .at problem left := by
  induction h with
  | digits => exact Stop.noConfusion
  | array => exact Stop.noConfusion
  | object => exact Stop.noConfusion
  | _ => assumption

/-- No value starts with the end of a list or the mark of a byte order. -/
theorem readValue_no_start {c : Char} (hc : c = ']' ∨ c = '\uFEFF') :
    readValue (fuel + 1) room (c :: cs) = stop .value (c :: cs) := by
  rcases hc with rfl | rfl
  all_goals
    rw [readValue_scalar (by decide) (by decide) (by decide)]
    simp [readWord?, words, readNumber, Numeral.digits]

theorem readItems_close (before : List Value) :
    readItems (fuel + 2) room before (']' :: cs) = stop .value (']' :: cs) := by
  rw [readItems, readValue_no_start (.inl rfl)]
  rfl

theorem readEntries_close (before : List (String × Value)) :
    readEntries (fuel + 2) room before ('\x7d' :: cs) = stop .propertyName ('\x7d' :: cs) :=
  rfl

/-- A text that asks for too much stops the reader there, whatever stands behind it. -/
theorem stops_of_overflows {part : Part} (h : Overflows s part room cs) : part.Stops s room cs := by
  induction h with
  | @digits n room cs h =>
    intro fuel hfuel
    obtain ⟨fuel, rfl⟩ := Nat.exists_eq_add_one_of_ne_zero (show fuel ≠ 0 by omega)
    exact readValue_of_longNumber h
  | array cs =>
    intro fuel hfuel
    obtain ⟨fuel, rfl⟩ := Nat.exists_eq_add_one_of_ne_zero (show fuel ≠ 0 by omega)
    simp [readValue]
  | object cs =>
    intro fuel hfuel
    obtain ⟨fuel, rfl⟩ := Nat.exists_eq_add_one_of_ne_zero (show fuel ≠ 0 by omega)
    simp [readValue]
  | @inArray s room cs h ih =>
    intro fuel hfuel
    obtain ⟨fuel, rfl⟩ := Nat.exists_eq_add_one_of_ne_zero (show fuel ≠ 0 by omega)
    have hspace := length_skipSpace cs
    rw [List.length_cons] at hfuel
    rw [readValue.eq_def]
    simp only [Nat.add_one_ne_zero, if_false]
    split
    · -- an empty list asks for nothing
      rename_i rest hclose
      have hstop := hclose ▸ ih (2 * (']' :: rest).length + 2) [] (by rw [hclose]; omega)
      exact absurd (Except.error.inj (hstop.symm.trans (readItems_close []))) h.ne_at
    · exact ih _ _ (by omega)
  | @inObject s room cs h ih =>
    intro fuel hfuel
    obtain ⟨fuel, rfl⟩ := Nat.exists_eq_add_one_of_ne_zero (show fuel ≠ 0 by omega)
    have hspace := length_skipSpace cs
    rw [List.length_cons] at hfuel
    rw [readValue.eq_def]
    simp only [Nat.add_one_ne_zero, if_false]
    split
    · -- nor does an empty mapping
      rename_i rest hclose
      have hstop := hclose ▸ ih (2 * ('\x7d' :: rest).length + 2) [] (by rw [hclose]; omega)
      exact absurd (Except.error.inj (hstop.symm.trans (readEntries_close []))) h.ne_at
    · exact ih _ _ (by omega)
  | @item s room cs h ih =>
    intro fuel before hfuel
    obtain ⟨fuel, rfl⟩ := Nat.exists_eq_add_one_of_ne_zero (show fuel ≠ 0 by omega)
    rw [readItems, ih fuel (by omega)]
    rfl
  | @laterItem s room cs rest more hv hc h ih =>
    intro fuel before hfuel
    obtain ⟨fuel, rfl⟩ := Nat.exists_eq_add_one_of_ne_zero (show fuel ≠ 0 by omega)
    obtain ⟨v, hlen, hread⟩ := hv.readValue
    have hrest := length_skipSpace rest
    have hmore := length_skipSpace more
    rw [hc, List.length_cons] at hrest
    rw [readItems, hread fuel (by omega)]
    simp only [bind, Except.bind, hc]
    exact ih _ _ (by omega)
  | @entry s room cs inner hk h ih =>
    intro fuel before hfuel
    obtain ⟨fuel, rfl⟩ := Nat.exists_eq_add_one_of_ne_zero (show fuel ≠ 0 by omega)
    have hlen := hk.length
    obtain ⟨text, key, next, after, rfl, hkey, hcolon, rfl⟩ := hk
    rw [readEntries, hkey]
    simp only [bind, Except.bind, hcolon]
    rw [ih fuel (by omega)]
  | @laterEntry s room cs inner rest more hk hv hc h ih =>
    intro fuel before hfuel
    obtain ⟨fuel, rfl⟩ := Nat.exists_eq_add_one_of_ne_zero (show fuel ≠ 0 by omega)
    have hlen := hk.length
    obtain ⟨text, key, next, after, rfl, hkey, hcolon, rfl⟩ := hk
    obtain ⟨v, hvalue, hread⟩ := hv.readValue
    have hrest := length_skipSpace rest
    have hmore := length_skipSpace more
    rw [hc, List.length_cons] at hrest
    rw [readEntries, hkey]
    simp only [bind, Except.bind, hcolon]
    rw [hread fuel (by omega)]
    simp only [hc]
    exact ih _ _ (by omega)

/-- A text asks for too much just when the reader says so. -/
theorem readWhole_eq_error (hs : ∀ problem left, s ≠ .at problem left) :
    readWhole cs = .error s ↔ Overflows s .value depthLimit (skipSpace cs) := by
  constructor
  · intro h
    unfold readWhole at h
    dsimp only at h
    split at h
    · cases h
      exact absurd rfl (hs _ _)
    rcases bind_eq_error h with h | ⟨⟨v, rest⟩, -, h⟩
    · rcases (stopsAt _).value h with ⟨_, _, rfl⟩ | h
      · exact absurd rfl (hs _ _)
      · exact h
    · dsimp only at h
      split at h
      · cases h
      · cases h
        exact absurd rfl (hs _ _)
  · intro h
    have hstop : ∀ fuel, 2 * (skipSpace cs).length < fuel →
        readValue fuel depthLimit (skipSpace cs) = .error s := stops_of_overflows h
    have hspace := length_skipSpace cs
    unfold readWhole
    dsimp only
    rw [if_neg, hstop _ (by omega)]
    · rfl
    · -- the mark of a byte order is refused first, but no value starts with it
      intro hmark
      obtain ⟨rest, rfl⟩ := List.head?_eq_some_iff.mp hmark
      rw [skipSpace_cons (by decide)] at hstop h
      have hno : readValue (2 * ('\uFEFF' :: rest).length + 1) depthLimit ('\uFEFF' :: rest) =
          stop .value ('\uFEFF' :: rest) := readValue_no_start (.inr rfl)
      exact absurd (Except.error.inj ((hstop _ (Nat.lt_succ_self _)).symm.trans hno)) h.ne_at

theorem read_eq_tooManyDigits {text : String} : read text = .error (.tooManyDigits n) ↔
    Overflows (.tooManyDigits n) .value depthLimit (skipSpace text.toList) := by
  rw [← readWhole_eq_error fun _ _ => Stop.noConfusion, read]
  cases readWhole text.toList with
  | ok v => simp
  | error s => cases s <;> simp

theorem read_eq_tooDeep {text : String} {b : Bracket} : read text = .error (.tooDeep b) ↔
    Overflows (.tooDeep b) .value depthLimit (skipSpace text.toList) := by
  rw [← readWhole_eq_error fun _ _ => Stop.noConfusion, read]
  cases readWhole text.toList with
  | ok v => simp
  | error s => cases s <;> simp

end SchemaIntents.Json
