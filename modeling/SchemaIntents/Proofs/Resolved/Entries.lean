import SchemaIntents.Proofs.Resolution.Misuse
import SchemaIntents.Proofs.Resolved.Counting

/-! What comes of each field of a list. Every field is accounted for in its place: it repeats a
name, or has no type, or is resolved, and a name that occurred counts even if its field was
refused. -/
namespace SchemaIntents.Resolved

open Intent (AuthoredField)

/-- The path of the field at a position of a list. -/
def fieldPath (root : String) (n : Nat) : String :=
  root ++ s!"[{n}]"

/-- The name of the field at a position occurred before it, where names may not occur again. -/
def Repeats (checks : FieldChecks) (fs : List AuthoredField) (f : AuthoredField) (n : Nat) : Prop :=
  checks.duplicates = true ∧ f.name ∈ (fs.take n).map (·.name)

/-- What comes of the field at a position of a list: what is reported of it, and it itself if it is
resolved. -/
inductive EntryAt (checks : FieldChecks) (owner root : String) (fs : List AuthoredField) :
    AuthoredField × Nat → List Diagnostic × Option Field → Prop
  | repeated {f : AuthoredField} {n : Nat} : Repeats checks fs f n →
      EntryAt checks owner root fs (f, n) ([duplicateError f.name (fieldPath root n)], none)
  | untyped {f : AuthoredField} {n : Nat} {fault : TypeFault} : ¬ Repeats checks fs f n →
      typeOf f owner = .error fault → EntryAt checks owner root fs (f, n)
        (nameWarning checks f (fieldPath root n) ++ [typeError f fault (fieldPath root n)], none)
  | resolved {f : AuthoredField} {n : Nat} {t : FieldType} : ¬ Repeats checks fs f n →
      typeOf f owner = .ok t → EntryAt checks owner root fs (f, n)
        (nameWarning checks f (fieldPath root n), some (Field.ofAuthored f t))

section Entry

variable {checks : FieldChecks} {owner root : String} {fs : List AuthoredField}
  {x : AuthoredField × Nat} {e : List Diagnostic × Option Field}

theorem countP_nameWarning {f : AuthoredField} {path code : String} (hcode : code ≠ "IR011") :
    (nameWarning checks f path).countP (·.code == code) = 0 := by
  rw [List.countP_eq_zero]
  intro d hd
  obtain ⟨-, rfl⟩ := mem_nameWarning.mp hd
  simpa using hcode.symm

/-- A field is just one of three: resolved, repeated or without a type. -/
theorem EntryAt.count (h : EntryAt checks owner root fs x e) :
    e.2.toList.length + e.1.countP (·.code == "IR020") + e.1.countP (·.code == "IR021") = 1 := by
  cases h with
  | repeated => rfl
  | untyped =>
    rw [List.countP_append, List.countP_append, countP_nameWarning (by decide),
      countP_nameWarning (by decide)]
    rfl
  | resolved =>
    rw [countP_nameWarning (by decide), countP_nameWarning (by decide)]
    rfl

theorem EntryAt.name_eq (h : EntryAt checks owner root fs x e) {r : Field} (hr : r ∈ e.2) :
    r.name = x.1.name := by
  cases h with
  | repeated | untyped => cases hr
  | resolved =>
    obtain rfl := Option.some.inj hr
    rfl

/-- A name is not reported where it may occur again. -/
theorem EntryAt.code_ne (h : EntryAt checks owner root fs x e) (hd : checks.duplicates = false) :
    ∀ d ∈ e.1, d.code ≠ "IR020" := by
  have warned {f : AuthoredField} {path : String} (d : Diagnostic)
      (hmem : d ∈ nameWarning checks f path) : d.code ≠ "IR020" := by
    obtain ⟨-, rfl⟩ := mem_nameWarning.mp hmem
    simp
  cases h with
  | repeated hrep => exact absurd hrep.1 (by simp [hd])
  | untyped => exact List.forall_mem_append.mpr ⟨warned, by simp [typeError]⟩
  | resolved => exact warned

/-- Where names may not occur again, what is resolved is found by its name in the place that it came
from. -/
theorem EntryAt.authoredOf?_eq (h : EntryAt checks owner root fs x e)
    (hd : checks.duplicates = true)
    (hx : fs[x.2]? = some x.1) {r : Field} (hr : r ∈ e.2) : authoredOf? fs r.name = some x := by
  rw [h.name_eq hr]
  cases h with
  | repeated | untyped => cases hr
  | resolved hnew => exact authoredOf?_of_new hx fun hname => hnew ⟨hd, hname⟩

end Entry

section Lists

variable {checks : FieldChecks} {owner root : String} {seen : List String} {position : Nat}
  {all pre fs : List AuthoredField} {xs : List (AuthoredField × Nat)}
  {es : List (List Diagnostic × Option Field)}

/-- One step of the run: what comes of a field, and then of the rest with its name among those that
were seen. -/
theorem exists_entryAt (checks : FieldChecks) (owner root : String) (f : AuthoredField)
    (fs : List AuthoredField)
    (hseen : ∀ name, name ∈ seen ↔ name ∈ (all.take position).map (·.name)) :
    ∃ e seen', EntryAt checks owner root all (f, position) e ∧
      (∀ name, name ∈ seen' ↔ name = f.name ∨ name ∈ seen) ∧
      resolveFrom checks owner root seen position (f :: fs) =
        (e.1 ++ (resolveFrom checks owner root seen' (position + 1) fs).1,
          e.2.toList ++ (resolveFrom checks owner root seen' (position + 1) fs).2) := by
  by_cases hskip : (checks.duplicates && seen.contains f.name) = true
  · have hrep : checks.duplicates = true ∧ f.name ∈ seen := by simpa using hskip
    refine ⟨_, seen, .repeated ⟨hrep.1, (hseen _).mp hrep.2⟩, fun name =>
      ?_, resolveFrom_of_seen hskip⟩
    rw [or_iff_right_of_imp]
    intro hname
    exact hname ▸ hrep.2
  · have hnew : ¬ Repeats checks all f position := fun hrep =>
      hskip (by simp [hrep.1, (hseen _).mpr hrep.2])
    have hseen' (name : String) : name ∈ f.name :: seen ↔
      name = f.name ∨ name ∈ seen := List.mem_cons
    rw [resolveFrom_of_new hskip]
    cases ht : typeOf f owner with
    | error fault =>
      rw [resolveField_of_error ht]
      exact ⟨_, f.name :: seen, .untyped hnew ht, hseen', rfl⟩
    | ok t =>
      rw [resolveField_of_ok ht]
      exact ⟨_, f.name :: seen, .resolved hnew ht, hseen', rfl⟩

/-- The whole run: the names that were seen are those of the fields before, resolved or not. -/
theorem exists_entries (checks : FieldChecks) (owner root : String) (fs : List AuthoredField)
    (hseen : ∀ name, name ∈ seen ↔ name ∈ pre.map (·.name)) :
    ∃ es, List.Forall₂ (EntryAt checks owner root (pre ++ fs)) (fs.zipIdx pre.length) es ∧
      resolveFrom checks owner root seen pre.length fs =
        (es.flatMap (·.1), es.filterMap (·.2)) := by
  induction fs generalizing pre seen with
  | nil => exact ⟨[], .nil, rfl⟩
  | cons f fs ih =>
    have hbefore (name : String) :
        name ∈ seen ↔ name ∈ ((pre ++ f :: fs).take pre.length).map (·.name) := by
      rw [List.take_left, hseen]
    obtain ⟨e, seen', hentry, hseen', hrun⟩ := exists_entryAt checks owner root f fs hbefore
    have hthrough (name : String) : name ∈ seen' ↔ name ∈ (pre ++ [f]).map (·.name) := by
      rw [hseen', hseen, List.map_append, List.mem_append, or_comm]
      simp
    obtain ⟨es, hes, hlater⟩ := ih hthrough
    rw [List.append_assoc, List.singleton_append, List.length_append, List.length_singleton] at hes
    rw [List.length_append, List.length_singleton] at hlater
    refine ⟨e :: es, .cons hentry hes, ?_⟩
    rw [hrun, hlater]
    cases he : e.2 <;> simp [he]

theorem length_of_entries (h : List.Forall₂ (EntryAt checks owner root all) xs es) :
    xs.length = (es.filterMap (·.2)).length + (es.flatMap (·.1)).countP (·.code == "IR020") +
      (es.flatMap (·.1)).countP (·.code == "IR021") := by
  induction h with
  | nil => rfl
  | @cons x e xs es hentry _ ih =>
    have hone := hentry.count
    have hlength : ((e :: es).filterMap (·.2)).length = e.2.toList.length +
      (es.filterMap (·.2)).length := by
      cases he : e.2 <;> simp [he, Nat.add_comm]
    rw [List.length_cons, hlength, List.flatMap_cons, List.countP_append, List.countP_append]
    omega

/-- The names of the resolved fields come in the order of the list. -/
theorem sublist_of_entries (h : List.Forall₂ (EntryAt checks owner root all) xs es) :
    ((es.filterMap (·.2)).map (·.name)).Sublist (xs.map (·.1.name)) := by
  induction h with
  | nil => exact .slnil
  | @cons x e xs es hentry _ ih =>
    cases he : e.2 with
    | none =>
      rw [List.filterMap_cons_none he]
      exact ih.cons _
    | some r =>
      rw [List.filterMap_cons_some he, List.map_cons, List.map_cons, hentry.name_eq he]
      exact ih.cons_cons _

theorem nodup_resolveFrom (hd : checks.duplicates = true) :
    ((resolveFrom checks owner root seen position fs).2.map (·.name)).Nodup := by
  induction fs generalizing seen position with
  | nil => exact .nil
  | cons f fs ih =>
    by_cases hskip : (checks.duplicates && seen.contains f.name) = true
    · rw [resolveFrom_of_seen hskip]
      exact ih
    · rw [resolveFrom_of_new hskip, List.map_append, List.nodup_append]
      refine ⟨?_, ih, ?_⟩
      · cases (resolveField checks owner (root ++ s!"[{position}]") f).2 <;> simp
      · intro name hfirst later hlater
        obtain ⟨r, hr, rfl⟩ := List.mem_map.mp hfirst
        obtain ⟨r', hr', rfl⟩ := List.mem_map.mp hlater
        obtain ⟨t, -, rfl⟩ := mem_resolveField.mp hr
        have hunseen := ((mem_resolveFrom hd).mp hr').1
        exact fun he => hunseen (he ▸ List.mem_cons_self)

end Lists

/-- What is reported of a list of fields and what is resolved, accounted for field by field. -/
structure FieldAccounts (checks : FieldChecks) (owner root : String) (fs : List AuthoredField)
    (es : List (List Diagnostic × Option Field)) : Prop where
  entries : List.Forall₂ (EntryAt checks owner root fs) fs.zipIdx es
  reported : (resolveFields checks owner root fs).1 = es.flatMap (·.1)
  resolved : (resolveFields checks owner root fs).2 = es.filterMap (·.2)
  length : fs.length = (resolveFields checks owner root fs).2.length +
    (resolveFields checks owner root fs).1.countP (·.code == "IR020") +
    (resolveFields checks owner root fs).1.countP (·.code == "IR021")
  inOrder : ((resolveFields checks owner root fs).2.map (·.name)).Sublist (fs.map (·.name))
  distinct : checks.duplicates = true → ((resolveFields checks owner root fs).2.map (·.name)).Nodup
  found : checks.duplicates = true →
    List.Forall₂ (fun x e => ∀ r ∈ e.2, authoredOf? fs r.name = some x) fs.zipIdx es
  unrepeated : checks.duplicates = false →
    ∀ d ∈ (resolveFields checks owner root fs).1, d.code ≠ "IR020"

theorem exists_accounts (checks : FieldChecks) (owner root : String) (fs : List AuthoredField) :
    ∃ es, FieldAccounts checks owner root fs es := by
  have hstart (name : String) : name ∈ [] ↔ name ∈ ([] : List AuthoredField).map (·.name) := Iff.rfl
  obtain ⟨es, hes, hrun⟩ := exists_entries checks owner root fs hstart
  change resolveFields checks owner root fs = _ at hrun
  have hplace : ∀ x ∈ fs.zipIdx, fs[x.2]? = some x.1 := fun x hx =>
    List.mem_zipIdx_iff_getElem?.mp hx
  refine ⟨es, hes, by rw [hrun], by rw [hrun], ?_, ?_, nodup_resolveFrom,
    fun hd => ?_, fun hd => ?_⟩
  · rw [hrun, ← length_of_entries hes]
    simp
  · have hnames : fs.zipIdx.map (·.1.name) = fs.map (·.name) := by
      rw [← Function.comp_def (fun f : AuthoredField => f.name), ← List.map_map,
        List.zipIdx_map_fst]
    rw [hrun, ← hnames]
    exact sublist_of_entries hes
  · refine ((List.forall₂_and_left _ _).mpr ⟨hplace, hes⟩).imp fun x e h r hr => ?_
    exact h.2.authoredOf?_eq hd h.1 hr
  · intro d hmem
    rw [hrun, List.mem_flatMap] at hmem
    obtain ⟨e, he, hmem⟩ := hmem
    obtain ⟨x, -, hentry⟩ := Shape.exists_left_of_forall₂ hes he
    exact hentry.code_ne hd d hmem

/-- Of fields that have names, all that is reported can be told if their types can. -/
theorem isTorn_of_mem_resolveFrom {checks : FieldChecks} {owner root : String} {seen : List String}
    {position : Nat} {fs : List AuthoredField} (hnames : ∀ f ∈ fs, Text.isTorn f.name = false)
    (h : ∀ m, ¬ HasUntoldField checks owner seen fs m) {d : Diagnostic}
    (hd : d ∈ (resolveFrom checks owner root seen position fs).1) :
      Text.isTorn d.message = false := by
  induction fs generalizing seen position with
  | nil => cases hd
  | cons f fs ih =>
    rw [List.forall_mem_cons] at hnames
    have hlater : ∀ m, ¬ HasUntoldField checks owner (f.name :: seen) fs m :=
      fun m hm => h m (hasUntoldField_cons.mpr (.inr hm))
    by_cases hskip : (checks.duplicates && seen.contains f.name) = true
    · rw [resolveFrom_of_seen hskip, List.mem_cons] at hd
      rcases hd with rfl | hd
      · have constant : Text.isTorn "Duplicate field name '" = false ∧
          Text.isTorn "'" = false := by decide
        simp [duplicateError, hnames.1, constant]
      · have hmem : f.name ∈ seen := List.contains_iff_mem.mp (Bool.and_eq_true_iff.mp hskip).2
        exact ih hnames.2 (fun m hm => hlater m ((hasUntoldField_of_mem hmem).mpr hm)) hd
    · rw [resolveFrom_of_new hskip, List.mem_append] at hd
      rcases hd with hd | hd
      · have warned {path : String} (hd : d ∈ nameWarning checks f path) :
            Text.isTorn d.message = false := by
          have constant : Text.isTorn "Field name '" = false ∧
              Text.isTorn "' is a reserved SQL keyword" = false := by decide
          obtain ⟨-, rfl⟩ := mem_nameWarning.mp hd
          simp [hnames.1, constant]
        cases ht : typeOf f owner with
        | ok t =>
          rw [resolveField_of_ok ht] at hd
          exact warned hd
        | error fault =>
          rw [resolveField_of_error ht, List.mem_append, List.mem_singleton] at hd
          rcases hd with hd | rfl
          · exact warned hd
          · refine Bool.eq_false_iff.mpr fun htorn =>
              h .torn (hasUntoldField_cons.mpr (.inl ⟨?_, ?_⟩))
            · simpa using hskip
            · exact .fault ht htorn
      · exact ih hnames.2 hlater hd

/-- Fields that have names are resolved, and all that is reported of them can be told, unless one of
them has a type that cannot be told. Then each of them is accounted for just once, in its place;
where names may not occur again, what is resolved is told by its name. -/
theorem resolveFields_accounts (checks : FieldChecks) (owner root : String)
    (fs : List AuthoredField) (hnames : ∀ f ∈ fs, Text.IsProper f.name) :
    ((∃ m, fieldsMisuse? checks owner fs = some m) ↔ ∃ m, HasUntoldField checks owner [] fs m) ∧
      ((∀ m, ¬ HasUntoldField checks owner [] fs m) →
        (∀ d ∈ (resolveFields checks owner root fs).1, Text.isTorn d.message = false) ∧
          ∃ es, FieldAccounts checks owner root fs es) := by
  constructor
  · rw [← Option.isSome_iff_exists]
    exact isSome_misuseFrom?
  · intro hnone
    exact ⟨fun d hd => isTorn_of_mem_resolveFrom (fun f hf => (hnames f hf).whole) hnone hd,
      exists_accounts checks owner root fs⟩

/-- A field of a name and a word for its type, and nothing else. -/
def bareField (name type : String) : AuthoredField :=
  ⟨name, type, none, none, .null, none, none, none, none, none, none, none, none, [],
    none, none, none, []⟩

/-- A reference whose action on deletion is too long a number to be shown. -/
def longReference : AuthoredField :=
  let action : Intent.Attribute := ⟨"on_delete",
    [("action", .int (.ofNat (Nat.pow 10 longestNumber)))]⟩
  { bareField "author" "reference" with
    relation := some ⟨"User", "many_to_one", some "id", [action], none, true⟩ }

theorem resolveFields_accounts_price :
    let checks : FieldChecks := ⟨true, true⟩
    let fs := [bareField "id" "uuid", bareField "price" "money", bareField "id" "integer",
      bareField "price" "string", bareField "order" "string"]
    let resolved := resolveFields checks "Sale" "$.fields" fs
    (∃ es, FieldAccounts checks "Sale" "$.fields" fs es) ∧
      resolved.1.map (fun d => (d.code, d.path)) = [("IR021", "$.fields[1].type"),
        ("IR020", "$.fields[2].name"), ("IR020", "$.fields[3].name"),
          ("IR011", "$.fields[4].name")] ∧
      resolved.2.map (·.name) = ["id", "order"] ∧ fieldsMisuse? checks "Sale" fs = none ∧
      (∃ m, HasUntoldField checks "Sale" [] (longReference :: fs) m) ∧
      fieldsMisuse? checks "Sale" (longReference :: fs) = some .tooManyDigits := by
  intro checks fs resolved
  have hnames : ∀ f ∈ longReference :: fs, Text.IsProper f.name := by decide
  have hlong : fieldsMisuse? checks "Sale" (longReference :: fs) = some .tooManyDigits := by
    decide +kernel
  have hshown : fieldsMisuse? checks "Sale" fs = none := by decide +kernel
  obtain ⟨hmisused, -⟩ := resolveFields_accounts checks "Sale" "$.fields"
    (longReference :: fs) hnames
  obtain ⟨hmisused', hresolved⟩ := resolveFields_accounts checks "Sale" "$.fields" fs
    fun f hf => hnames f (List.mem_cons_of_mem _ hf)
  have htold : ∀ m, ¬ HasUntoldField checks "Sale" [] fs m := by
    intro m hm
    obtain ⟨m', hm'⟩ := hmisused'.mpr ⟨m, hm⟩
    cases hshown.symm.trans hm'
  exact ⟨(hresolved htold).2, by decide +kernel, by decide +kernel, hshown,
    hmisused.mp ⟨_, hlong⟩, hlong⟩

end SchemaIntents.Resolved
