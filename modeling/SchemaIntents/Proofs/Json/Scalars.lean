import SchemaIntents.Json.Reader
import SchemaIntents.Proofs.Json.Layout
import SchemaIntents.Proofs.Text.Points

/-! Words, whole numbers and texts in JSON are read as they were written. -/
namespace SchemaIntents.Json

/-- Where a value may end: it goes on with no character that belongs to a number. -/
def Ends (rest : List Char) : Prop :=
  ∀ c ∈ rest.head?, c ∈ [',', '\n', ']', '\x7d']

@[simp] theorem ends_nil : Ends [] := by
  simp [Ends]

theorem ends_cons {c : Char} (h : c ∈ [',', '\n', ']', '\x7d']) (rest : List Char) :
    Ends (c :: rest) := by
  simpa [Ends] using h

variable {rest : List Char}

theorem Ends.takeWhile_isDigit (h : Ends rest) : rest.takeWhile Char.isDigit = [] := by
  cases rest with
  | nil => rfl
  | cons c rest =>
    have hc : ∀ d ∈ [',', '\n', ']', '\x7d'], d.isDigit = false := by simp
    simp [hc c (h c rfl)]

theorem Ends.dropWhile_isDigit (h : Ends rest) : rest.dropWhile Char.isDigit = rest := by
  have hsplit := List.takeWhile_append_dropWhile (p := Char.isDigit) (l := rest)
  rwa [h.takeWhile_isDigit, List.nil_append] at hsplit

theorem Ends.readFraction (h : Ends rest) : readFraction rest = ([], rest) := by
  cases rest with
  | nil => rfl
  | cons c rest =>
    have hc : c ≠ '.' := fun he => absurd (h c rfl) (he ▸ by decide)
    simp [Json.readFraction, hc]

theorem Ends.readExponent (h : Ends rest) : readExponent rest = (none, rest) := by
  cases rest with
  | nil => rfl
  | cons c rest =>
    have hc : ¬(c = 'e' ∨ c = 'E') := by
      rintro (rfl | rfl) <;> exact absurd (h _ rfl) (by decide)
    simp [Json.readExponent, hc]

/-- The digits of a number come to the number. -/
theorem ofDigits_toDigits (n : Nat) : Numeral.ofDigits 10 (Nat.toDigits 10 n) = n := by
  have digits : ∀ c ∈ Nat.toDigits 10 n, c.isDigit = true :=
    fun c hc => Nat.isDigit_of_mem_toDigits (by decide) (by decide) hc
  have same : ∀ (cs : List Char) (m : Nat), (∀ c ∈ cs, c.isDigit = true) →
      cs.foldl (fun n c => n * 10 +
        if c.isDigit then c.toNat - 48 else if c.isLower then c.toNat - 87 else c.toNat - 55) m =
      Nat.ofDigitChars 10 cs m := by
    intro cs
    induction cs with
    | nil => intro m _; rfl
    | cons c cs ih =>
      intro m hcs
      rw [List.forall_mem_cons] at hcs
      rw [List.foldl_cons, ih _ hcs.2, Nat.ofDigitChars_cons, if_pos hcs.1, Nat.mul_comm]
      rfl
  exact (same _ 0 digits).trans Nat.ofDigitChars_ten_toDigits

/-- The digits of a number: there is one, and only zero starts with the digit zero. -/
theorem toDigits_eq_cons (n : Nat) : ∃ c cs, Nat.toDigits 10 n = c :: cs ∧
    (∀ d ∈ c :: cs, d.isDigit = true) ∧ (c = '0' → cs = []) := by
  cases hd : Nat.toDigits 10 n with
  | nil => exact absurd hd Nat.toDigits_ne_nil
  | cons c cs =>
    refine ⟨c, cs, rfl, fun d h => Nat.isDigit_of_mem_toDigits (by decide) (by decide) (hd ▸ h), ?_⟩
    induction n using Nat.strongRecOn generalizing cs with
    | ind n ih =>
      by_cases hlt : n < 10
      · rw [Nat.toDigits_of_lt_base hlt] at hd
        exact fun _ => (List.cons.inj hd).2.symm
      · rintro rfl
        rw [Nat.toDigits_of_base_le (by decide) (by omega)] at hd
        cases hq : Nat.toDigits 10 (n / 10) with
        | nil => exact absurd hq Nat.toDigits_ne_nil
        | cons d ds =>
          rw [hq, List.cons_append] at hd
          obtain ⟨rfl, -⟩ := List.cons.inj hd
          -- The number without its last digit would be zero, and the number less than ten.
          obtain rfl := ih (n / 10) (by omega) ds hq rfl
          have hzero := ofDigits_toDigits (n / 10)
          rw [hq, show Numeral.ofDigits 10 ['0'] = 0 from rfl] at hzero
          omega

theorem toList_toString (n : Int) :
    (toString n).toList = (if 0 ≤ n then [] else ['-']) ++ Nat.toDigits 10 n.natAbs := by
  rw [Int.toString_eq_repr, Int.repr_eq_if]
  split
  · rw [show n.natAbs = n.toNat by omega]
    simp [Nat.repr_eq_ofList_toDigits]
  · rw [show n.natAbs = (-n).toNat by omega]
    simp [Nat.repr_eq_ofList_toDigits]

/-- A whole number that is not too long is read as it was written. -/
theorem readNumber_toString {n : Int} (hn : (Nat.toDigits 10 n.natAbs).length ≤ digitLimit)
    (h : Ends rest) : readNumber ((toString n).toList ++ rest) = .ok (.int n, rest) := by
  have hvalue := ofDigits_toDigits n.natAbs
  obtain ⟨c, cs, hd, digits, hzero⟩ := toDigits_eq_cons n.natAbs
  rw [toList_toString, List.append_assoc]
  rw [hd] at hn hvalue ⊢
  have hc : c ≠ '-' := by
    rintro rfl
    exact absurd (digits '-' List.mem_cons_self) (by decide)
  have hdigits : Numeral.digits (c :: (cs ++ rest)) = (c :: cs, rest) := by
    rw [← List.cons_append, Numeral.digits, List.takeWhile_append_of_pos digits,
      List.dropWhile_append_of_pos digits, h.takeWhile_isDigit, h.dropWhile_isDigit,
        List.append_nil]
  have hlimit : ¬digitLimit < cs.length + 1 := by simpa using hn
  have hone : digitLimit ≠ 0 := by decide
  have hsign : if 0 ≤ n then (n.natAbs : Int) = n else -(n.natAbs : Int) = n := by split <;> omega
  generalize n.natAbs = m at hvalue hsign
  by_cases hfirst : c = '0'
  · obtain rfl := hzero hfirst
    subst hfirst
    by_cases hn : 0 ≤ n
    · rw [if_pos hn] at hsign
      simp [readNumber, hn, h.readFraction, h.readExponent, hvalue, hone, hsign]
    · rw [if_neg hn] at hsign
      simp [readNumber, hn, h.readFraction, h.readExponent, hvalue, hone, hsign]
  · by_cases hn : 0 ≤ n
    · rw [if_pos hn] at hsign
      simp [readNumber, hn, h.readFraction, h.readExponent, hvalue, hdigits, hfirst,
        hc, hlimit, hsign]
    · rw [if_neg hn] at hsign
      simp [readNumber, hn, h.readFraction, h.readExponent, hvalue, hdigits, hfirst, hlimit, hsign]

/-- What a character is read as: a control without a short escape is read as a code unit. -/
def pieceOf (c : Char) : Piece :=
  if c.toNat < 0x20 ∧ c ∉ ['\n', '\r', '\t', '\x08', '\x0c'] then .unit c.toNat else .char c

theorem hex_control : ∀ n < 0x20,
    Text.Quoted.hex 4 n = ['0', '0', (n / 16).digitChar, (n % 16).digitChar] ∧
      hex4? '0' '0' (n / 16).digitChar (n % 16).digitChar = some n := by
  decide

theorem readString_escape (opening : Nat) (pieces : List Piece) (c : Char) (hrest : rest ≠ []) :
    readString opening pieces (escape c ++ rest) = readString opening
      (pieceOf c :: pieces) rest := by
  unfold escape
  split_ifs with hquote hslash hn hr ht hb hf hcontrol
  any_goals
    subst c
    rfl
  · obtain ⟨hhex, hunit⟩ := hex_control c.toNat hcontrol
    have hpiece : pieceOf c = .unit c.toNat := by simp [pieceOf, hcontrol, hn, hr, ht, hb, hf]
    simp [readString, hhex, hunit, hrest, hpiece]
  · have hpiece : pieceOf c = .char c := by simp [pieceOf, hcontrol]
    rw [hpiece, List.singleton_append, readString.eq_def]
    split <;> grind

/-- A control stands for itself. -/
theorem unit_control {c : Char} (h : c.toNat < 0x20) :
    (Text.Point.ofNat c.toNat).held = [c] ∧ isHighSurrogate c.toNat = false := by
  have hhalf : ¬(0xD800 ≤ c.toNat ∧ c.toNat < 0xE000) := by omega
  have hmark : Text.isMark c = false := by
    simp only [Text.isMark, Bool.or_eq_false_iff, beq_eq_false_iff_ne]
    constructor <;> rintro rfl <;> exact absurd h (by decide)
  have hhigh : isHighSurrogate c.toNat = false := by
    simp only [isHighSurrogate, Bool.and_eq_false_iff, decide_eq_false_iff_not]
    omega
  exact ⟨by rw [Text.Point.ofNat, if_neg hhalf, Char.ofNat_toNat, Text.held_of_not_isMark hmark],
    hhigh⟩

/-- What characters are read as comes to the characters. -/
theorem joinPieces_map (cs : List Char) : joinPieces (cs.map pieceOf) = cs := by
  induction cs with
  | nil => rfl
  | cons c cs ih =>
    rw [List.map_cons]
    by_cases hc : c.toNat < 0x20 ∧ c ∉ ['\n', '\r', '\t', '\x08', '\x0c']
    · obtain ⟨hunit, hhigh⟩ := unit_control hc.1
      rw [pieceOf, if_pos hc]
      cases hm : cs.map pieceOf with
      | nil => simp_all [joinPieces]
      | cons p ps =>
        rw [hm] at ih
        cases p with
        | char d =>
          simp only [joinPieces] at ih ⊢
          rw [hunit, ih, List.singleton_append]
        | unit n =>
          rw [joinPieces, hhigh]
          simp [hunit, ih]
    · rw [pieceOf, if_neg hc, joinPieces, ih]

/-- A text in quotes is read up to its closing quote. -/
theorem readString_quoted (opening : Nat) (s : String) (rest : List Char) :
    readString opening [] (s.toList.flatMap escape ++ '"' :: rest) = .ok (s, rest) := by
  have body (cs : List Char) (pieces : List Piece) :
      readString opening pieces (cs.flatMap escape ++ '"' :: rest) =
        .ok (String.ofList (joinPieces (pieces.reverse ++ cs.map pieceOf)), rest) := by
    induction cs generalizing pieces with
    | nil => simp [readString]
    | cons c cs ih =>
      rw [List.flatMap_cons, List.append_assoc, readString_escape _ _ _ (by simp), ih]
      simp
  rw [body, List.reverse_nil, List.nil_append, joinPieces_map, String.ofList_toList]

variable {fuel room : Nat}

/-- What starts with no quote and no bracket is a word or a number. -/
theorem readValue_scalar {c : Char} {cs : List Char} (hq : c ≠ '"') (hl : c ≠ '[')
    (ho : c ≠ '\x7b') : readValue (fuel + 1) room (c :: cs) =
      (readWord? (c :: cs)).elim (readNumber (c :: cs)) Except.ok := by
  rw [readValue.eq_def]
  simp only
  split
  · simp_all
  · simp_all
  · simp_all
  · cases readWord? (c :: cs) <;> rfl

/-- No word is read where one of the next two characters is a digit. -/
theorem readWord?_eq_none {c : Char} {cs : List Char} (hc : c.isDigit = true) (h : c ∈ cs.take 2) :
    readWord? cs = none := by
  have plain : ∀ w ∈ words.map (·.1.toList), 2 ≤ w.length ∧ w.all (!·.isDigit) = true := by decide
  rw [readWord?, List.findSome?_eq_none_iff]
  intro w hw
  rw [if_neg]
  intro hpre
  obtain ⟨hlen, hplain⟩ := plain _ (List.mem_map_of_mem hw)
  obtain ⟨rest, rfl⟩ := List.isPrefixOf_iff_prefix.mp hpre
  rw [List.take_append_of_le_length hlen] at h
  simpa [hc] using List.all_eq_true.mp hplain c (List.mem_of_mem_take h)

theorem readValue_null : readValue (fuel + 1) room ("null".toList ++ rest) = .ok (.null, rest) := by
  have length : "null".length = 4 := by decide
  simp [readValue_scalar, readWord?, words, length]

theorem readValue_bool (b : Bool) :
    readValue (fuel + 1) room ((if b then "true" else "false").toList ++ rest) =
      .ok (.bool b, rest) := by
  have length : "true".length = 4 := by decide
  have length' : "false".length = 5 := by decide
  cases b <;> simp [readValue_scalar, readWord?, words, length, length']

theorem readValue_int {n : Int} (hn : (Nat.toDigits 10 n.natAbs).length ≤ digitLimit)
    (h : Ends rest) :
    readValue (fuel + 1) room ((toString n).toList ++ rest) = .ok (.int n, rest) := by
  have hread := readNumber_toString hn h
  obtain ⟨c, cs, hd, digits, -⟩ := toDigits_eq_cons n.natAbs
  have hc := digits c List.mem_cons_self
  have other {d : Char} (hd : d.isDigit = false) : c ≠ d := by
    rintro rfl
    simp [hc] at hd
  rw [toList_toString, hd] at hread ⊢
  by_cases hn : 0 ≤ n
  · rw [if_pos hn] at hread ⊢
    rw [List.nil_append, List.cons_append] at hread ⊢
    rw [readValue_scalar (other (by decide)) (other (by decide)) (other (by decide)),
      readWord?_eq_none hc (by simp)]
    exact hread
  · rw [if_neg hn] at hread ⊢
    rw [List.singleton_append, List.cons_append, List.cons_append] at hread ⊢
    rw [readValue_scalar (by decide) (by decide) (by decide),
      readWord?_eq_none hc (by simp)]
    exact hread

theorem readValue_str (s : String) :
    readValue (fuel + 1) room ((quoted s).toList ++ rest) = .ok (.str s, rest) := by
  simp only [quoted, String.toList_ofList, List.append_assoc, List.cons_append, readValue,
    List.nil_append, readString_quoted]
  rfl

end SchemaIntents.Json
