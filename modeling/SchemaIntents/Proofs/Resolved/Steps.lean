import Mathlib.Data.List.Forall2
import SchemaIntents.Resolved.Field

/-! What is done to one field of a list: it repeats a name, or has no type, or is resolved. What is
known of whole lists is drawn from these steps. -/
namespace SchemaIntents.Resolved

open Intent (AuthoredField)

/-- The warning about the name of a field, where names that SQL keeps are looked at. -/
def nameWarning (checks : FieldChecks) (f : AuthoredField) (path : String) : List Diagnostic :=
  if checks.reserved then reservedWarning "Field name" f.name (path ++ ".name") else []

/-- All that can be reported of fields: a name that SQL keeps, a name that occurred before, and a
type that cannot be told. -/
inductive FieldReport : Diagnostic → Prop
  | reserved (name path : String) :
      FieldReport ⟨"IR011", .warning, "Field name '" ++ name ++ "' is a reserved SQL keyword",
        path ++ ".name"⟩
  | repeated (name path : String) : FieldReport (duplicateError name path)
  | untyped (f : AuthoredField) (fault : TypeFault) (path : String) :
      FieldReport (typeError f fault path)

section Field

variable {checks : FieldChecks} {owner path : String} {f : AuthoredField} {d : Diagnostic}

theorem mem_nameWarning : d ∈ nameWarning checks f path ↔
    (checks.reserved = true ∧ Naming.isReserved f.name = true) ∧
      d = ⟨"IR011", .warning, "Field name '" ++ f.name ++ "' is a reserved SQL keyword",
        path ++ ".name"⟩ := by
  by_cases hchecks : checks.reserved = true <;> by_cases hname : Naming.isReserved f.name = true <;>
    simp [nameWarning, reservedWarning, hchecks, hname]

theorem errors_nameWarning : (nameWarning checks f path).filter Diagnostic.isError = [] := by
  rw [List.filter_eq_nil_iff]
  intro d hd
  obtain ⟨-, rfl⟩ := mem_nameWarning.mp hd
  simp [Diagnostic.isError]

theorem resolveField_of_ok {t : FieldType} (ht : typeOf f owner = .ok t) :
    resolveField checks owner path f = (nameWarning checks f path,
      some (Field.ofAuthored f t)) := by
  simp only [resolveField, ht]
  rfl

theorem resolveField_of_error {fault : TypeFault} (ht : typeOf f owner = .error fault) :
    resolveField checks owner path f = (nameWarning checks f path ++
      [typeError f fault path], none) := by
  simp only [resolveField, ht]
  rfl

theorem mem_resolveField {r : Field} : r ∈ (resolveField checks owner path f).2.toList ↔
    ∃ t, typeOf f owner = .ok t ∧ r = Field.ofAuthored f t := by
  cases ht : typeOf f owner with
  | ok t => simp [resolveField_of_ok ht]
  | error fault => simp [resolveField_of_error ht]

theorem fieldReport_of_mem_resolveField (hd : d ∈ (resolveField checks owner path f).1) :
    FieldReport d := by
  have warned (hd : d ∈ nameWarning checks f path) : FieldReport d := by
    obtain ⟨-, rfl⟩ := mem_nameWarning.mp hd
    exact .reserved _ _
  cases ht : typeOf f owner with
  | ok t =>
    rw [resolveField_of_ok ht] at hd
    exact warned hd
  | error fault =>
    rw [resolveField_of_error ht, List.mem_append, List.mem_singleton] at hd
    rcases hd with hd | rfl
    · exact warned hd
    · exact .untyped _ _ _

end Field

section List

variable {checks : FieldChecks} {owner root : String} {seen : List String} {position : Nat}
  {fs : List AuthoredField}

theorem resolveFrom_of_seen {f : AuthoredField}
    (hseen : (checks.duplicates && seen.contains f.name) = true) :
    resolveFrom checks owner root seen position (f :: fs) =
      (duplicateError f.name (root ++ s!"[{position}]") ::
          (resolveFrom checks owner root seen (position + 1) fs).1,
        (resolveFrom checks owner root seen (position + 1) fs).2) := by
  rw [resolveFrom, if_pos hseen]

theorem resolveFrom_of_new {f : AuthoredField}
    (hnew : ¬ (checks.duplicates && seen.contains f.name) = true) :
    resolveFrom checks owner root seen position (f :: fs) =
      ((resolveField checks owner (root ++ s!"[{position}]") f).1 ++
          (resolveFrom checks owner root (f.name :: seen) (position + 1) fs).1,
        (resolveField checks owner (root ++ s!"[{position}]") f).2.toList ++
          (resolveFrom checks owner root (f.name :: seen) (position + 1) fs).2) := by
  rw [resolveFrom, if_neg hnew]

theorem fieldReport_of_mem_resolveFrom {d : Diagnostic}
    (hd : d ∈ (resolveFrom checks owner root seen position fs).1) : FieldReport d := by
  induction fs generalizing seen position with
  | nil => cases hd
  | cons f fs ih =>
    by_cases hskip : (checks.duplicates && seen.contains f.name) = true
    · rw [resolveFrom_of_seen hskip, List.mem_cons] at hd
      rcases hd with rfl | hd
      · exact .repeated _ _
      · exact ih hd
    · rw [resolveFrom_of_new hskip, List.mem_append] at hd
      exact hd.elim fieldReport_of_mem_resolveField ih

/-- What is reported of fields and is no error warns of the name of one of them. -/
theorem exists_reserved_of_mem_resolveFrom {d : Diagnostic}
    (hd : d ∈ (resolveFrom checks owner root seen position fs).1) (herr : d.isError = false) :
    ∃ f ∈ fs, ∃ path, d ∈ nameWarning checks f path := by
  induction fs generalizing seen position with
  | nil => cases hd
  | cons f fs ih =>
    by_cases hskip : (checks.duplicates && seen.contains f.name) = true
    · rw [resolveFrom_of_seen hskip, List.mem_cons] at hd
      rcases hd with rfl | hd
      · cases herr
      · obtain ⟨g, hg, hwarned⟩ := ih hd
        exact ⟨g, List.mem_cons_of_mem _ hg, hwarned⟩
    · rw [resolveFrom_of_new hskip, List.mem_append] at hd
      rcases hd with hd | hd
      · refine ⟨f, List.mem_cons_self, root ++ s!"[{position}]", ?_⟩
        cases ht : typeOf f owner with
        | ok t => rwa [resolveField_of_ok ht] at hd
        | error fault =>
          rw [resolveField_of_error ht, List.mem_append, List.mem_singleton] at hd
          rcases hd with hd | rfl
          · exact hd
          · cases herr
      · obtain ⟨g, hg, hwarned⟩ := ih hd
        exact ⟨g, List.mem_cons_of_mem _ hg, hwarned⟩

/-- Whatever is resolved is made of one of the authored fields. -/
theorem exists_of_mem_resolveFrom {r : Field}
    (h : r ∈ (resolveFrom checks owner root seen position fs).2) :
    ∃ f ∈ fs, ∃ t, typeOf f owner = .ok t ∧ r = Field.ofAuthored f t := by
  induction fs generalizing seen position with
  | nil => simp [resolveFrom] at h
  | cons f fs ih =>
    have later : ∀ {seen position}, r ∈ (resolveFrom checks owner root seen position fs).2 →
        ∃ g ∈ f :: fs, ∃ t, typeOf g owner = .ok t ∧ r = Field.ofAuthored g t := by
      intro seen position h
      obtain ⟨g, hg, hr⟩ := ih h
      exact ⟨g, List.mem_cons_of_mem _ hg, hr⟩
    by_cases hskip : (checks.duplicates && seen.contains f.name) = true
    · rw [resolveFrom_of_seen hskip] at h
      exact later h
    · rw [resolveFrom_of_new hskip, List.mem_append, mem_resolveField] at h
      exact h.elim (fun hf => ⟨f, List.mem_cons_self, hf⟩) later

/-- The fields before others are resolved on their own; of them, the others know only the names. -/
theorem exists_resolveFrom_append (checks : FieldChecks) (owner root : String) (seen : List String)
    (position : Nat) (pre : List AuthoredField) :
    ∃ ds rs seen', (∀ name, name ∈ seen' ↔ name ∈ seen ∨ name ∈ pre.map (·.name)) ∧ ∀ fs,
      resolveFrom checks owner root seen position (pre ++ fs) =
        (ds ++ (resolveFrom checks owner root seen' (position + pre.length) fs).1,
          rs ++ (resolveFrom checks owner root seen' (position + pre.length) fs).2) := by
  induction pre generalizing seen position with
  | nil => exact ⟨[], [], seen, by simp, fun fs => rfl⟩
  | cons f pre ih =>
    have hplace : position + (f :: pre).length = position + 1 + pre.length := by
      rw [List.length_cons]
      omega
    rw [hplace]
    by_cases hskip : (checks.duplicates && seen.contains f.name) = true
    · obtain ⟨ds, rs, seen', hseen, hrun⟩ := ih seen (position + 1)
      have hmem : f.name ∈ seen := by
        rw [Bool.and_eq_true, List.contains_iff_mem] at hskip
        exact hskip.2
      refine ⟨duplicateError f.name (root ++ s!"[{position}]") :: ds, rs, seen', fun name =>
        ?_, fun fs => ?_⟩
      · have hknown : name = f.name → name ∈ seen := fun hname => hname ▸ hmem
        rw [hseen, List.map_cons, List.mem_cons, ← or_assoc, or_iff_left_of_imp hknown]
      · rw [List.cons_append, resolveFrom_of_seen hskip, hrun, List.cons_append]
    · obtain ⟨ds, rs, seen', hseen, hrun⟩ := ih (f.name :: seen) (position + 1)
      let here := resolveField checks owner (root ++ s!"[{position}]") f
      refine ⟨here.1 ++ ds, here.2.toList ++ rs, seen', fun name => ?_, fun fs => ?_⟩
      · rw [hseen, List.map_cons, List.mem_cons, List.mem_cons, or_assoc, or_left_comm]
      · rw [List.cons_append, resolveFrom_of_new hskip, hrun, List.append_assoc, List.append_assoc]

/-- Where no error comes up, a field has a name that did not occur before and a type, and it is
resolved. -/
theorem resolveFrom_cons {f : AuthoredField}
    (h : (resolveFrom checks owner root seen position (f :: fs)).1.any Diagnostic.isError = false) :
    (checks.duplicates = true → f.name ∉ seen) ∧
      (∃ t, typeOf f owner = .ok t ∧
        (resolveFrom checks owner root seen position (f :: fs)).2 = Field.ofAuthored f t ::
          (resolveFrom checks owner root (f.name :: seen) (position + 1) fs).2) ∧
      (resolveFrom checks owner root (f.name :: seen) (position + 1) fs).1.any
        Diagnostic.isError = false := by
  by_cases hskip : (checks.duplicates && seen.contains f.name) = true
  · simp [resolveFrom_of_seen hskip, duplicateError, Diagnostic.isError] at h
  · rw [resolveFrom_of_new hskip, List.any_append, Bool.or_eq_false_iff] at h
    refine ⟨fun hd => by simpa [hd] using hskip, ?_, h.2⟩
    cases ht : typeOf f owner with
    | error fault => simp [resolveField_of_error ht, typeError, Diagnostic.isError] at h
    | ok t => exact ⟨t, rfl, by simp [resolveFrom_of_new hskip, resolveField_of_ok ht]⟩

/-- Where no error comes up, each field is resolved in its place. -/
theorem forall₂_resolveFrom
    (h : (resolveFrom checks owner root seen position fs).1.any Diagnostic.isError = false) :
    List.Forall₂ (fun f r => ∃ t, typeOf f owner = .ok t ∧ r = Field.ofAuthored f t) fs
      (resolveFrom checks owner root seen position fs).2 := by
  induction fs generalizing seen position with
  | nil => exact .nil
  | cons f fs ih =>
    obtain ⟨-, ⟨t, ht, hfields⟩, hrest⟩ := resolveFrom_cons h
    rw [hfields]
    exact .cons ⟨t, ht, rfl⟩ (ih hrest)

theorem length_resolveFrom
    (h : (resolveFrom checks owner root seen position fs).1.any Diagnostic.isError = false) :
    (resolveFrom checks owner root seen position fs).2.length = fs.length :=
  (forall₂_resolveFrom h).length_eq.symm

end List
end SchemaIntents.Resolved
