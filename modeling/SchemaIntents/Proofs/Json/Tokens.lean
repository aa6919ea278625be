import Mathlib.Data.List.Forall2
import SchemaIntents.Proofs.Json.Scalars

/-! Texts that are told apart from what follows them. The kind of a value shows in the first
characters of its text; a word or a number goes on up to where a value may end, and a text in quotes
up to its closing quote. -/
namespace SchemaIntents.Json

variable {r s : List Char}

/-- The characters at which a word or a number ends. -/
def endChars : List Char :=
  [',', '\n', ']', '\x7d']

/-- The word or number that a text starts with. -/
def token (cs : List Char) : List Char :=
  cs.takeWhile fun c => c ∉ endChars

/-- The kind of the value that a word or a number is. -/
def kindOfToken (cs : List Char) : String :=
  if cs = "null".toList then "NoneType"
  else if cs = "true".toList ∨ cs = "false".toList then "bool"
  else if '.' ∈ cs ∨ 'e' ∈ cs then "float"
  else "int"

/-- The kind of the value that a text starts with. -/
def kindOf : List Char → String
  | '"' :: _ => "str"
  | '[' :: _ => "list"
  | '\x7b' :: _ => "dict"
  | cs => kindOfToken (token cs)

/-- A text that can be nothing but a word or a number. -/
structure IsToken (cs : List Char) : Prop where
  ne_nil : cs ≠ []
  plain : ∀ c ∈ cs, c ∉ endChars ∧ c ∉ ['"', '[', '\x7b']

namespace IsToken

variable {cs cs' : List Char}

theorem token_append (h : IsToken cs) (hr : Ends r) : token (cs ++ r) = cs := by
  have hend : token r = [] := by
    cases r with
    | nil => rfl
    | cons c r =>
      have hc : c ∈ endChars := hr c rfl
      exact List.takeWhile_cons_of_neg (by simpa using hc)
  have hplain : ∀ c ∈ cs, decide (c ∉ endChars) =
    true := fun c hc => by simpa using (h.plain c hc).1
  rw [token, List.takeWhile_append_of_pos hplain, ← token, hend, List.append_nil]

/-- Where a token ends shows in what follows it. -/
theorem append_inj (h : IsToken cs) (h' : IsToken cs') (hr : Ends r) (hs : Ends s)
    (heq : cs ++ r = cs' ++ s) : cs = cs' ∧ r = s := by
  have hsame : cs = cs' := by rw [← h.token_append hr, heq, h'.token_append hs]
  subst hsame
  exact ⟨rfl, List.append_cancel_left heq⟩

theorem kindOf_append (h : IsToken cs) (hr : Ends r) : kindOf (cs ++ r) = kindOfToken cs := by
  have hword := h.token_append hr
  cases cs with
  | nil => exact absurd rfl h.ne_nil
  | cons c cs =>
    have hfirst := (h.plain c List.mem_cons_self).2
    rw [List.cons_append] at hword ⊢
    unfold kindOf
    split <;> simp_all

theorem not_ends (h : IsToken cs) : ¬Ends (cs ++ r) := by
  cases cs with
  | nil => exact absurd rfl h.ne_nil
  | cons c cs => exact fun hends => (h.plain c List.mem_cons_self).1 (hends c rfl)

end IsToken

/-- A character of a number. -/
def IsNumeric (c : Char) : Prop :=
  c.isDigit = true ∨ c ∈ ['-', '+', '.', 'e']

instance (c : Char) : Decidable (IsNumeric c) :=
  inferInstanceAs (Decidable (_ ∨ _))

theorem isToken_of_isNumeric {cs : List Char} (hne : cs ≠ []) (h : ∀ c ∈ cs, IsNumeric c) :
    IsToken cs := by
  have plain : ∀ c ∈ endChars ++ ['"', '[', '\x7b'], ¬IsNumeric c := by
    simp [endChars, IsNumeric]
  exact ⟨hne, fun c hc => ⟨fun hm => plain c (List.mem_append_left _ hm) (h c hc),
    fun hm => plain c (List.mem_append_right _ hm) (h c hc)⟩⟩

/-- Numbers are told from words by their characters, and floats from whole numbers by a point or an
exponent. -/
theorem kindOfToken_of_isNumeric {cs : List Char} (h : ∀ c ∈ cs, IsNumeric c) :
    kindOfToken cs = if '.' ∈ cs ∨ 'e' ∈ cs then "float" else "int" := by
  have other : ∀ {c : Char}, ¬IsNumeric c → c ∉ cs := fun hc hm => hc (h _ hm)
  have hnull : cs ≠ "null".toList := fun hc => other (c := 'n') (by decide) (by simp [hc])
  have htrue : cs ≠ "true".toList := fun hc => other (c := 't') (by decide) (by simp [hc])
  have hfalse : cs ≠ "false".toList := fun hc => other (c := 'f') (by decide) (by simp [hc])
  rw [kindOfToken, if_neg hnull, if_neg (not_or.mpr ⟨htrue, hfalse⟩)]

theorem mem_toString {n : Int} {c : Char} (h : c ∈ (toString n).toList) :
    c.isDigit = true ∨ c = '-' := by
  rw [toList_toString, List.mem_append] at h
  rcases h with h | h
  · split at h
    · simp at h
    · exact .inr (List.mem_singleton.mp h)
  · exact .inl (Nat.isDigit_of_mem_toDigits (by decide) (by decide) h)

theorem isNumeric_of_mem_toString {n : Int} {c : Char} (h : c ∈ (toString n).toList) :
    IsNumeric c := by
  rcases mem_toString h with h | rfl
  · exact .inl h
  · decide

theorem isToken_toString (n : Int) : IsToken (toString n).toList := by
  refine isToken_of_isNumeric ?_ fun c hc => isNumeric_of_mem_toString hc
  rw [toList_toString]
  exact List.append_ne_nil_of_right_ne_nil _ Nat.toDigits_ne_nil

theorem kindOfToken_toString (n : Int) : kindOfToken (toString n).toList = "int" := by
  have hmark : ¬('.' ∈ (toString n).toList ∨ 'e' ∈ (toString n).toList) := by
    rintro (hm | hm) <;> exact absurd (mem_toString hm) (by decide)
  rw [kindOfToken_of_isNumeric fun c hc => isNumeric_of_mem_toString hc, if_neg hmark]

/-- A whole number is told by its digits and its sign. -/
theorem toString_inj {m n : Int} (h : toString m = toString n) : m = n := by
  have hchars := congrArg String.toList h
  rw [toList_toString, toList_toString] at hchars
  have digits : ∀ {a b : Nat}, Nat.toDigits 10 a = Nat.toDigits 10 b → a = b := fun {a b} hab => by
    rw [← ofDigits_toDigits a, hab, ofDigits_toDigits]
  have unsigned : ∀ {a : Nat} {cs : List Char}, Nat.toDigits 10 a ≠ '-' ::
    cs := fun {a cs} hcs => by
    have hdigit : '-'.isDigit = true :=
      Nat.isDigit_of_mem_toDigits (b := 10) (n := a) (by decide) (by decide)
        (hcs ▸ List.mem_cons_self)
    exact absurd hdigit (by decide)
  split_ifs at hchars with hm hn hn
  · have := digits hchars
    omega
  · exact absurd hchars unsigned
  · exact absurd hchars.symm unsigned
  · have := digits (List.cons.inj hchars).2
    omega

section Finite

variable {x : Binary64}

theorem number_of_isFinite (h : x.isFinite = true) : number x = x.finiteText := by
  have hfield : ¬x.exponentField = 2047 := by simpa [Binary64.isFinite] using h
  simp [number, Binary64.text, Binary64.isNaN, Binary64.isInfinite, hfield]

theorem isToken_number (h : x.isFinite = true) : IsToken (number x).toList := by
  rw [number_of_isFinite h]
  refine isToken_of_isNumeric ?_ fun c hc => Binary64.mem_finiteText hc
  intro hnil
  have hmark := x.mark_mem_finiteText
  simp [hnil] at hmark

theorem kindOfToken_number (h : x.isFinite = true) : kindOfToken (number x).toList = "float" := by
  rw [number_of_isFinite h, kindOfToken_of_isNumeric fun c hc => Binary64.mem_finiteText hc,
    if_pos x.mark_mem_finiteText]

end Finite

theorem isToken_null : IsToken "null".toList :=
  ⟨by decide, by simp [endChars]⟩

theorem isToken_bool (b : Bool) : IsToken (if b then "true" else "false").toList := by
  cases b <;> exact ⟨by decide, by simp [endChars]⟩

theorem quoted_append_inj {a b : String} (h : (quoted a).toList ++ r = (quoted b).toList ++ s) :
    a = b ∧ r = s := by
  simp only [quoted, String.toList_ofList, List.cons_append, List.append_assoc, List.nil_append,
    List.cons.injEq, true_and] at h
  have hread := congrArg (readString 0 []) h
  rw [readString_quoted, readString_quoted] at hread
  exact Prod.mk.inj (Except.ok.inj hread)

section Separated

variable {α : Type} {R : α → α → Prop} {f : α → List Char} {as bs : List α} {closing : Char}

theorem intercalate_cons (a : List Char) (as : List (List Char)) :
    [','].intercalate (a :: as) = a ++ as.flatMap (',' :: ·) := by
  induction as generalizing a with
  | nil => simp
  | cons b as ih => simp [ih]

theorem ends_tail (hc : closing ∈ endChars) : Ends (as.flatMap (',' :: f ·) ++ closing :: r) := by
  cases as with
  | nil => exact ends_cons hc r
  | cons a as => exact ends_cons (by decide) _

/-- Items after commas are told apart if each of them is told from what follows it. -/
theorem forall₂_of_tail (hc : closing ∈ endChars) (hcomma : closing ≠ ',')
    (hR : ∀ a ∈ as, ∀ b ∈ bs, ∀ {r s}, Ends r → Ends s → f a ++ r = f b ++ s → R a b ∧ r = s)
    (h : as.flatMap (',' :: f ·) ++ closing :: r = bs.flatMap (',' :: f ·) ++ closing :: s) :
    List.Forall₂ R as bs ∧ r = s := by
  induction as generalizing bs with
  | nil =>
    cases bs with
    | nil => exact ⟨.nil, (List.cons.inj h).2⟩
    | cons b bs => exact absurd (List.cons.inj h).1 hcomma
  | cons a as ih =>
    cases bs with
    | nil => exact absurd (List.cons.inj h).1.symm hcomma
    | cons b bs =>
      rw [List.flatMap_cons, List.flatMap_cons, List.cons_append, List.cons_append,
        List.cons_append, List.cons_append, List.append_assoc, List.append_assoc] at h
      obtain ⟨hab, hrest⟩ := hR a List.mem_cons_self b List.mem_cons_self
        (ends_tail hc) (ends_tail hc) (List.cons.inj h).2
      obtain ⟨hall, hrs⟩ := ih
        (fun a ha b hb => hR a (List.mem_cons_of_mem _ ha) b (List.mem_cons_of_mem _ hb)) hrest
      exact ⟨.cons hab hall, hrs⟩

/-- Items between commas are told apart if each of them is told from what follows it, and none of
them starts where one may end. -/
theorem forall₂_of_intercalate (hc : closing ∈ endChars) (hcomma : closing ≠ ',')
    (ha : ∀ a ∈ as, ∀ r, ¬Ends (f a ++ r)) (hb : ∀ b ∈ bs, ∀ r, ¬Ends (f b ++ r))
    (hR : ∀ a ∈ as, ∀ b ∈ bs, ∀ {r s}, Ends r → Ends s → f a ++ r = f b ++ s → R a b ∧ r = s)
    (h : [','].intercalate (as.map f) ++ closing ::
      r = [','].intercalate (bs.map f) ++ closing :: s) :
    List.Forall₂ R as bs ∧ r = s := by
  have hends : ∀ r, Ends ([','].intercalate (([] : List α).map f) ++ closing :: r) := ends_cons hc
  cases as with
  | nil =>
    cases bs with
    | nil => exact ⟨.nil, (List.cons.inj h).2⟩
    | cons b bs =>
      have hends := hends r
      rw [h, List.map_cons, intercalate_cons, List.append_assoc] at hends
      exact absurd hends (hb b List.mem_cons_self _)
  | cons a as =>
    cases bs with
    | nil =>
      have hends := hends s
      rw [← h, List.map_cons, intercalate_cons, List.append_assoc] at hends
      exact absurd hends (ha a List.mem_cons_self _)
    | cons b bs =>
      rw [List.map_cons, List.map_cons, intercalate_cons, intercalate_cons, List.append_assoc,
        List.append_assoc, List.flatMap_map, List.flatMap_map] at h
      obtain ⟨hab, hrest⟩ := hR a List.mem_cons_self b List.mem_cons_self (ends_tail hc)
        (ends_tail hc) h
      obtain ⟨hall, hrs⟩ := forall₂_of_tail hc hcomma
        (fun a ha b hb => hR a (List.mem_cons_of_mem _ ha) b (List.mem_cons_of_mem _ hb)) hrest
      exact ⟨.cons hab hall, hrs⟩

end Separated

end SchemaIntents.Json
