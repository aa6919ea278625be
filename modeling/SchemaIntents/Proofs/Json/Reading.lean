import SchemaIntents.Json.Reader
import SchemaIntents.Proofs.Shape.Checking
import SchemaIntents.Proofs.Value.Json

/-! What is read from a JSON text is JSON. -/
namespace SchemaIntents.Json

variable {v : Value} {rest cs : List Char} {fuel room : Nat}

theorem isJson_of_readNumber (h : readNumber cs = .ok (v, rest)) : v.IsJson := by
  unfold readNumber at h
  dsimp only at h
  repeat' split at h
  all_goals
    cases h
    try simp

theorem isJson_of_readWord? (h : readWord? cs = some (v, rest)) : v.IsJson := by
  have plain : ∀ w ∈ words, w.2.IsJson := by simp [words]
  obtain ⟨w, hw, hv⟩ := List.exists_of_findSome?_eq_some h
  split at hv
  · cases hv
    exact plain w hw
  · cases hv

theorem isJson_put {es : List (String × Value)} (k : String) (hv : v.IsJson)
    (h : ∀ e ∈ es, e.2.IsJson) : ∀ e ∈ Value.put k v es, e.2.IsJson := by
  induction es with
  | nil => simpa [Value.put] using hv
  | cons e es ih =>
    rw [List.forall_mem_cons] at h
    rw [Value.put]
    split
    · exact List.forall_mem_cons.mpr ⟨hv, h.2⟩
    · exact List.forall_mem_cons.mpr ⟨h.1, ih h.2⟩

/-- With so much fuel everything that is read is JSON: a value, and a list or mapping that is read
to its end after JSON. -/
structure ReadsJson (fuel : Nat) : Prop where
  value : ∀ {room cs v rest}, readValue fuel room cs = .ok (v, rest) → v.IsJson
  items : ∀ {room before cs v rest}, (∀ i ∈ before, i.IsJson) →
    readItems fuel room before cs = .ok (v, rest) → v.IsJson
  entries : ∀ {room before cs v rest}, (∀ e ∈ before, e.2.IsJson) →
    readEntries fuel room before cs = .ok (v, rest) → v.IsJson

namespace ReadsJson

theorem value_succ (ih : ReadsJson fuel) (h : readValue (fuel + 1) room cs = .ok (v, rest)) :
    v.IsJson := by
  rw [readValue.eq_def] at h
  dsimp only at h
  split at h
  · obtain ⟨s, -, h⟩ := bind_eq_ok h
    cases h
    exact .str _
  · split at h
    · cases h
    split at h
    · cases h
      simp
    · exact ih.items (by simp) h
  · split at h
    · cases h
    split at h
    · cases h
      simp
    · exact ih.entries (by simp) h
  · split at h
    · cases h
      exact isJson_of_readWord? ‹_›
    · exact isJson_of_readNumber h

theorem items_succ (ih : ReadsJson fuel) {before : List Value} (hb : ∀ i ∈ before, i.IsJson)
    (h : readItems (fuel + 1) room before cs = .ok (v, rest)) : v.IsJson := by
  rw [readItems] at h
  obtain ⟨⟨w, next⟩, hw, h⟩ := bind_eq_ok h
  have hmore : ∀ i ∈ w :: before, i.IsJson := List.forall_mem_cons.mpr ⟨ih.value hw, hb⟩
  dsimp only at h
  split at h
  · cases h
    exact .list fun i hi => hmore i (List.mem_reverse.mp hi)
  · exact ih.items hmore h
  · cases h

theorem entries_succ (ih : ReadsJson fuel) {before : List (String × Value)}
    (hb : ∀ e ∈ before, e.2.IsJson) (h : readEntries (fuel + 1) room before cs = .ok (v, rest)) :
    v.IsJson := by
  rw [readEntries.eq_def] at h
  dsimp only at h
  split at h
  · obtain ⟨⟨k, next⟩, -, h⟩ := bind_eq_ok h
    dsimp only at h
    split at h
    · obtain ⟨⟨w, next⟩, hw, h⟩ := bind_eq_ok h
      have hmore := isJson_put k (ih.value hw) hb
      dsimp only at h
      split at h
      · cases h
        simpa using hmore
      · exact ih.entries hmore h
      · cases h
    · cases h
  · cases h

end ReadsJson

theorem readsJson (fuel : Nat) : ReadsJson fuel := by
  induction fuel with
  | zero => constructor <;> intros <;> rename_i h <;> cases h
  | succ fuel ih => exact ⟨ih.value_succ, ih.items_succ, ih.entries_succ⟩

/-- The value of a JSON text is JSON. -/
theorem isJson_of_read {s : String} (h : read s = .ok v) : v.IsJson := by
  have whole : readWhole s.toList = .ok v := by
    unfold read at h
    dsimp only at h
    split at h <;> first | (cases h; assumption) | cases h
  unfold readWhole at whole
  dsimp only at whole
  split at whole
  · cases whole
  obtain ⟨⟨w, next⟩, hw, whole⟩ := bind_eq_ok whole
  dsimp only at whole
  split at whole
  · cases whole
    exact (readsJson _).value hw
  · cases whole

end SchemaIntents.Json
