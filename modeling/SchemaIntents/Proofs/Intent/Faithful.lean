import SchemaIntents.Intent.Part
import SchemaIntents.Proofs.Shape.Writing
import SchemaIntents.Proofs.Value.Display

/-! Intents are read part by part, and an intent that comes from JSON holds nothing but what its
value holds. -/
namespace SchemaIntents

namespace Value

theorem IsShort.of_mem_children {v w : Value} (hv : v.IsShort) (h : w ∈ v.children) :
    w.IsShort := by
  rw [isShort_iff] at hv ⊢
  obtain ⟨hj, hlong, hdepth⟩ := hv
  refine ⟨Instance.isJson_of_mem_children hj h, ?_⟩
  cases hj with
  | list =>
    rw [hasLongNumber, hasLongItem_eq, List.any_eq_false] at hlong
    rw [depth, Nat.succ_le_iff] at hdepth
    exact ⟨by simpa using hlong w h, depthAll_le.mp (Nat.le_of_lt hdepth) w h⟩
  | obj =>
    obtain ⟨e, he, rfl⟩ := List.mem_map.mp h
    rw [hasLongNumber, hasLongEntry_eq, List.any_eq_false] at hlong
    rw [depth, Nat.succ_le_iff] at hdepth
    exact ⟨by simpa using hlong e he, depthEntries_le.mp (Nat.le_of_lt hdepth) e he⟩
  | _ => simp [children] at h

end Value

namespace Intent

open Instance Shape

theorem schema_faithful : schema.Faithful where
  shapes := by
    intro n
    cases n <;> decide
  wires := by
    intro n
    cases n <;> decide
  whole := by
    intro n
    cases n <;> decide +kernel
  names := by
    intro n
    cases n <;> decide
  settled := by
    intro n
    cases n <;> decide

instance : schema.Whole :=
  schema_faithful.toWhole

theorem names_nodup (n : Name) : ((schema n).fields.map (·.name)).Nodup := by
  cases n <;> decide

theorem items?_getD (i : Part) : (Instance.items? i).getD [] = i.items := by
  cases i <;> rfl

theorem reads_of_parse {n : Name} {v : Value} {p : Part} (h : parse n v = .ok p) :
    Reads schema levelLimit (.model n) v p :=
  reads_of_checker schema_faithful.shapes rfl h

/-- What a part holds can be shown, as far as it is no whole number by itself. -/
def IsShown (w : Value) : Prop :=
  w.IsShort ∨ ∃ n, w = .int n

theorem isShown_of_plain {l : Nat} {s : Shape Name} {v w : Value} (hv : v.IsShort)
    (hs : s.isPlain = true) (h : v.checker schema l s = .ok (.plain w)) : IsShown w := by
  rcases eq_or_of_plain hv.1 hs h with rfl | ⟨t, rfl⟩ | ⟨b, rfl⟩ | hn | ⟨x, rfl⟩
  · exact .inl hv
  · exact .inl ⟨.str t, rfl⟩
  · exact .inl ⟨.bool b, rfl⟩
  · exact .inr hn
  · exact .inl ⟨.float x, rfl⟩

theorem isShort_of_fallback (n : Name) {f : Field Name} (hf : f ∈ (schema n).fields) {d : Value}
    (hd : f.fallback = some d) : d.IsShort := by
  have checked : (schema n).fields.all fun f => f.fallback.all fun d => d.displayFault?.isNone := by
    cases n <;> decide
  refine ⟨?_, by simpa [hd] using List.all_eq_true.mp checked f hf⟩
  rcases Field.null_or_stands (schema_faithful.settled n f hf) hd with rfl | hst
  · exact .null
  · exact isJson_of_stands hst

theorem isShown_of_parse {n : Name} {v : Value} {p : Part} (hv : v.IsShort)
    (h : parse n v = .ok p) : p.HoldsOnly IsShown := by
  refine holdsOnly_of_reads Value.IsShort.of_mem_children isShown_of_plain (.inl ⟨.null, rfl⟩)
    (fun n f hf d hd => ?_) hv (reads_of_parse h)
  have hs := isShort_of_fallback n hf hd
  exact holdsOnly_ofValue (.inl hs) fun w hw => .inl (hs.of_mem_children hw)

/-- The entries of a free mapping can be shown. -/
theorem isShort_of_mapping {p : Part} (h : p.HoldsOnly IsShown) {name key : String}
    {es : List (String × Value)} {w : Value} (hes : p.mapping? name = some es)
    (hw : Value.find? key es = some w) : w.IsShort := by
  have hp : (p.field schema name).HoldsOnly IsShown := h.field (.inl ⟨.null, rfl⟩) name
  simp only [Part.mapping?, Part.get] at hes
  cases hf : p.field schema name with
  | plain v =>
    rw [hf] at hes hp
    rcases holdsOnly_plain.mp hp with hv | ⟨n, rfl⟩
    · have hv' := hv.1
      cases hv' with
      | @obj entries =>
        obtain rfl := Option.some.inj hes
        exact hv.of_mem_children (List.mem_map_of_mem (Value.mem_of_find? hw))
      | _ => simp [Value.entries?] at hes
    · simp [Value.entries?] at hes
  | _ => simp [hf] at hes

end Intent
end SchemaIntents
