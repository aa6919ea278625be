import SchemaIntents.Value

/-! Entries of mappings with text keys: what is found under a key, also after an entry was
written. -/
namespace SchemaIntents.Value

variable {key : String} {v w : Value} {es es' : List (String × Value)}

theorem find?_append (key : String) (es es' : List (String × Value)) :
    find? key (es ++ es') = (find? key es).or (find? key es') := by
  induction es with
  | nil => rfl
  | cons e es ih =>
    obtain ⟨k, v⟩ := e
    by_cases hk : k = key <;> simp [find?, hk, ih]

theorem find?_eq_none (h : key ∉ es.map (·.1)) : find? key es = none := by
  induction es with
  | nil => rfl
  | cons e es ih =>
    obtain ⟨k, v⟩ := e
    rw [List.map_cons, List.mem_cons, not_or] at h
    rw [find?, if_neg (Ne.symm h.1), ih h.2]

theorem find?_filter {other : String} (h : key ≠ other) (es : List (String × Value)) :
    find? key (es.filter fun e => e.1 != other) = find? key es := by
  induction es with
  | nil => rfl
  | cons e es ih =>
    obtain ⟨k, v⟩ := e
    by_cases hother : k = other
    · have hkey : k ≠ key := fun hk => h (hk.symm.trans hother)
      rw [List.filter_cons_of_neg (by simpa using hother), find?, if_neg hkey, ih]
    · rw [List.filter_cons_of_pos (by simpa using hother)]
      by_cases hkey : k = key <;> simp [find?, hkey, ih]

theorem isSome_find? (key : String) (es : List (String × Value)) :
    (find? key es).isSome = (es.map (·.1)).contains key := by
  induction es with
  | nil => rfl
  | cons e es ih =>
    obtain ⟨k, v⟩ := e
    by_cases hk : k = key
    · simp [find?, hk]
    · simp [find?, hk, Ne.symm hk, ih]

theorem find?_put_self (key : String) (v : Value) (es : List (String × Value)) :
    find? key (put key v es) = some v := by
  induction es with
  | nil => simp [put, find?]
  | cons e es ih =>
    obtain ⟨k, w⟩ := e
    by_cases hk : k = key
    · simp [put, find?, hk]
    · simp [put, find?, hk, ih]

theorem find?_put_of_ne {key other : String} (h : key ≠ other) (v : Value)
    (es : List (String × Value)) : find? key (put other v es) = find? key es := by
  induction es with
  | nil => simp [put, find?, Ne.symm h]
  | cons e es ih =>
    obtain ⟨k, w⟩ := e
    by_cases hk : k = other
    · simp [put, find?, hk, Ne.symm h]
    · by_cases hkey : k = key
      · simp [put, find?, hkey, h]
      · simp [put, find?, hk, hkey, ih]

theorem put_put : put key v (put key w es) = put key v es := by
  induction es with
  | nil => simp [put]
  | cons e es ih =>
    obtain ⟨k, u⟩ := e
    by_cases hk : k = key
    · simp [put, hk]
    · simp [put, hk, ih]

theorem find?_put_congr {other : String} (h : find? key es = find? key es') :
    find? key (put other v es) = find? key (put other v es') := by
  by_cases hkey : key = other
  · rw [hkey, find?_put_self, find?_put_self]
  · rw [find?_put_of_ne hkey, find?_put_of_ne hkey, h]

theorem keys_put (key : String) (v : Value) (es : List (String × Value)) :
    (put key v es).map (·.1) =
      if key ∈ es.map (·.1) then es.map (·.1) else es.map (·.1) ++ [key] := by
  induction es with
  | nil => simp [put]
  | cons e es ih =>
    obtain ⟨k, u⟩ := e
    by_cases hk : k = key
    · simp [put, hk]
    · simp only [put, hk, if_false, List.map_cons, ih, List.mem_cons, Ne.symm hk, false_or]
      split <;> simp

theorem mem_put {k : String} (h : k ∈ (put key v es).map (·.1)) : k ∈ es.map (·.1) ∨ k = key := by
  rw [keys_put] at h
  split at h
  · exact .inl h
  · simpa using h

/-- An entry that is there is written in its place. -/
theorem put_of_find? (h : find? key es = some v) :
    ∃ before after, es = before ++ (key, v) :: after ∧
      ∀ w, put key w es = before ++ (key, w) :: after := by
  induction es with
  | nil => simp [find?] at h
  | cons e es ih =>
    obtain ⟨k, u⟩ := e
    by_cases hk : k = key
    · obtain rfl : u = v := by simpa [find?, hk] using h
      exact ⟨[], es, by simp [hk], fun w => by simp [put, hk]⟩
    · obtain ⟨before, after, hes, hput⟩ := ih (by simpa [find?, hk] using h)
      refine ⟨(k, u) :: before, after, by rw [hes, List.cons_append], fun w => ?_⟩
      rw [put, if_neg hk, hput, List.cons_append]

theorem mem_of_find? (h : find? key es = some v) : (key, v) ∈ es := by
  obtain ⟨before, after, rfl, -⟩ := put_of_find? h
  simp

/-- Where no key stands twice, what is found under a key is its entry. -/
theorem find?_of_mem (hn : (es.map (·.1)).Nodup) (h : (key, v) ∈ es) : find? key es = some v := by
  induction es with
  | nil => simp at h
  | cons e es ih =>
    obtain ⟨k, u⟩ := e
    simp only [List.map_cons, List.nodup_cons] at hn
    rcases List.mem_cons.mp h with h | h
    · obtain ⟨rfl, rfl⟩ := Prod.mk.inj h
      simp [find?]
    · have hk : k ≠ key := fun hk => hn.1 (hk ▸ List.mem_map_of_mem h)
      rw [find?, if_neg hk, ih hn.2 h]

/-- Where no key stands twice, the order of the entries is of no account. -/
theorem find?_perm (hn : (es.map (·.1)).Nodup) (hp : es.Perm es') (key : String) :
    find? key es' = find? key es := by
  cases h : find? key es with
  | some v =>
    exact find?_of_mem ((hp.map _).nodup hn) (hp.mem_iff.mp (mem_of_find? h))
  | none =>
    refine find?_eq_none fun hkey => ?_
    rw [← (hp.map (·.1)).mem_iff] at hkey
    have hthere := isSome_find? key es
    simp [h, hkey] at hthere

theorem find?_insert {k : String} (h : key ≠ k) :
    find? key (es ++ (k, v) :: es') = find? key (es ++ es') := by
  rw [find?_append, find?_append, find?, if_neg (Ne.symm h)]

theorem find?_middle (h : key ∉ es.map (·.1)) : find? key (es ++ (key, v) :: es') = some v := by
  rw [find?_append, find?_eq_none h, Option.none_or, find?, if_pos rfl]

end SchemaIntents.Value
