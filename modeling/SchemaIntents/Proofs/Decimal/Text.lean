import SchemaIntents.Proofs.Calendar

/-! The characters of a finite number: digits, signs and its marks, the point and the exponent, one
of which tells it from a whole number. -/
namespace SchemaIntents.Binary64

variable {digits : List Char} {c : Char}

theorem mem_positional {whole : Int} (h : c ∈ positional digits whole) :
    c ∈ digits ∨ c = '0' ∨ c = '.' := by
  unfold positional at h
  dsimp only at h
  split_ifs at h
  · simp only [List.mem_cons, List.mem_append, List.mem_replicate] at h
    tauto
  · simp only [List.mem_cons, List.mem_append, List.mem_replicate, List.not_mem_nil, or_false] at h
    tauto
  · simp only [List.mem_cons, List.mem_append] at h
    rcases h with h | h | h
    · exact .inl (List.mem_of_mem_take h)
    · exact .inr (.inr h)
    · exact .inl (List.mem_of_mem_drop h)

theorem point_mem_positional (digits : List Char) (whole : Int) :
    '.' ∈ positional digits whole := by
  unfold positional
  dsimp only
  split_ifs <;> simp

theorem mem_exponential {exponent : Int} (h : c ∈ exponential digits exponent) :
    c ∈ digits ∨ c.isDigit = true ∨ c ∈ ['-', '+', '.', 'e'] := by
  unfold exponential at h
  simp only [List.mem_append, List.mem_cons] at h
  rcases h with h | rfl | rfl | h
  · split at h
    · obtain rfl := List.mem_singleton.mp h
      exact .inr (.inl (by decide))
    · exact .inl h
    · rcases List.mem_cons.mp h with rfl | h
      · exact .inl List.mem_cons_self
      · rcases List.mem_cons.mp h with rfl | h
        · exact .inr (.inr (by decide))
        · exact .inl (List.mem_cons_of_mem _ h)
  · exact .inr (.inr (by decide))
  · exact .inr (.inr (by split <;> decide))
  · exact .inr (.inl (Pattern.isDigit_of_mem_padded h))

theorem mark_mem_exponential (digits : List Char) (exponent : Int) :
    'e' ∈ exponential digits exponent := by
  simp [exponential]

/-- A finite number is written with its shortest digits, in positional or in exponent form. -/
theorem exists_finiteText (x : Binary64) : ∃ body,
    (∃ e, body = positional (Nat.toDigits 10 x.shortest.digits) e ∨
      body = exponential (Nat.toDigits 10 x.shortest.digits) e) ∧
    x.finiteText.toList = (if x.negative then ['-'] else []) ++ body := by
  have signed : ∀ body : List Char,
      (String.ofList (if x.negative then '-' :: body else body)).toList =
        (if x.negative then ['-'] else []) ++ body := by
    intro body
    split <;> simp
  refine ⟨_, ?_, signed _⟩
  split
  · exact ⟨_, .inl rfl⟩
  · exact ⟨_, .inr rfl⟩

theorem mem_finiteText {x : Binary64} (h : c ∈ x.finiteText.toList) :
    c.isDigit = true ∨ c ∈ ['-', '+', '.', 'e'] := by
  have digit : c ∈ Nat.toDigits 10 x.shortest.digits → c.isDigit = true :=
    Nat.isDigit_of_mem_toDigits (by decide) (by decide)
  obtain ⟨body, ⟨e, hbody⟩, htext⟩ := exists_finiteText x
  rw [htext, List.mem_append] at h
  rcases h with h | h
  · split at h
    · obtain rfl := List.mem_singleton.mp h
      exact .inr (by decide)
    · simp at h
  · rcases hbody with rfl | rfl
    · rcases mem_positional h with h | rfl | rfl
      · exact .inl (digit h)
      · exact .inl (by decide)
      · exact .inr (by decide)
    · rcases mem_exponential h with h | h
      · exact .inl (digit h)
      · exact h

/-- No finite number is written like a whole number. -/
theorem mark_mem_finiteText (x : Binary64) :
    '.' ∈ x.finiteText.toList ∨ 'e' ∈ x.finiteText.toList := by
  obtain ⟨body, ⟨e, hbody⟩, htext⟩ := exists_finiteText x
  rw [htext]
  rcases hbody with rfl | rfl
  · exact .inl (List.mem_append_right _ (point_mem_positional _ _))
  · exact .inr (List.mem_append_right _ (mark_mem_exponential _ _))

end SchemaIntents.Binary64
