import SchemaIntents.Proofs.Resolved.Entity

/-! A field whose type becomes unknown among others. The errors of the others stay as they are, and
so do they themselves; the field is left out, and with it a key that it may have been. -/
namespace SchemaIntents

open Intent (AuthoredField)

/-- A field with another word for its type, and without its relation. -/
def Intent.AuthoredField.retyped (f : AuthoredField) (word : String) : AuthoredField :=
  { f with type := word, relation := none }

namespace Resolved

/-- A word that stands for no type: no primitive one, none that is put together, and no
reference. -/
def IsUnknownWord (word : String) : Prop :=
  let token := Text.normalize word
  scalarWords.lookup token = none ∧ token ∉ ["json", "enum", "array"] ++ referenceWords

theorem ofWord_of_unknown {word : String} (h : IsUnknownWord word) (values : Option (List String))
    (element name : Option String) :
    FieldType.ofWord (some word) values element name = .error (.unknown word) := by
  obtain ⟨hscalar, hothers⟩ := h
  simp only [List.cons_append, List.nil_append, List.mem_cons, not_or] at hothers
  obtain ⟨hjson, henum, harray, href⟩ := hothers
  simp [FieldType.ofWord, hscalar, hjson, henum, harray, href]

/-- The type of a field can be told, and nothing in its relation cannot be shown. -/
def HasType (f : AuthoredField) (owner : String) (t : FieldType) : Prop :=
  typeOf f owner = .ok t ∧ typeMisuse? f owner = none

section Retyped

variable {f : AuthoredField} {owner word : String}

theorem typeOf_retyped (h : IsUnknownWord word) :
    typeOf (f.retyped word) owner = .error (.unknown word) := by
  have hown : typeOf (f.retyped word) owner = ownType (f.retyped word) owner := rfl
  rw [hown, ownType]
  exact ofWord_of_unknown h _ _ _

/-- What is wrong with a type is told with its word and the name of its field. -/
theorem isTorn_typeError (fault : TypeFault) (path : String) :
    Text.isTorn (typeError f fault path).message =
      (Text.isTorn f.type || Text.isTorn f.name || Text.isTorn fault.message) := by
  have constant : Text.isTorn "Invalid field type '" = false ∧ Text.isTorn "' for field '" = false ∧
      Text.isTorn "': " = false := by decide
  simp only [typeError, Text.isTorn_append, constant, Bool.false_or, Bool.or_false]

theorem isTorn_typeError_retyped (hname : Text.isTorn f.name = false) (path : String) :
    Text.isTorn (typeError (f.retyped word) (.unknown word) path).message = Text.isTorn word := by
  have htype : (f.retyped word).type = word := rfl
  have hname' : (f.retyped word).name = f.name := rfl
  have hfault : Text.isTorn (TypeFault.unknown word).message = Text.isTorn word := by
    have opening : Text.isTorn "Unknown field type: " = false := by decide
    show Text.isTorn ("Unknown field type: " ++ word) = Text.isTorn word
    rw [Text.isTorn_append, opening, Bool.false_or]
  rw [isTorn_typeError, htype, hname', hname, hfault, Bool.or_false, Bool.or_self]

theorem typeMisuse?_retyped (hname : Text.isTorn f.name = false) (h : IsUnknownWord word) :
    typeMisuse? (f.retyped word) owner = if Text.isTorn word then some .torn else none := by
  rw [typeMisuse?, typeOf_retyped h]
  show (typeError (f.retyped word) (.unknown word) "").misuse? = _
  rw [Diagnostic.misuse?, isTorn_typeError_retyped hname]

end Retyped

section ResolveFrom

variable {checks : FieldChecks} {owner root word : String} {seen : List String} {position n : Nat}
  {fs : List AuthoredField} {f : AuthoredField} {t : FieldType}

/-- A field that is resolved, and then has a word for a type that is unknown, adds the error about
it in its place and is left out there; all that comes of the fields before and after it stays. -/
theorem resolveFrom_set (root : String) (seen : List String) (position : Nat)
    (hf : fs[n]? = some f) (ht : typeOf f owner = .ok t) (hword : IsUnknownWord word)
    (hnew : checks.duplicates = true → f.name ∉ seen ∧ f.name ∉ (fs.take n).map (·.name)) :
    ∃ before after rs rs',
      (resolveFrom checks owner root seen position fs).1.filter Diagnostic.isError =
        before ++ after ∧
      (resolveFrom checks owner root seen position (fs.set n (f.retyped word))).1.filter
          Diagnostic.isError =
        before ++ typeError (f.retyped word) (.unknown word)
          (root ++ s!"[{position + n}]") :: after ∧
      (resolveFrom checks owner root seen position fs).2 = rs ++ Field.ofAuthored f t :: rs' ∧
      (resolveFrom checks owner root seen position (fs.set n (f.retyped word))).2 = rs ++ rs' := by
  obtain ⟨pre, post, rfl, rfl⟩ : ∃ pre post, fs = pre ++ f :: post ∧ pre.length = n := by
    obtain ⟨hn, hget⟩ := List.getElem?_eq_some_iff.mp hf
    refine ⟨fs.take n, fs.drop (n + 1), ?_, List.length_take_of_le (Nat.le_of_lt hn)⟩
    rw [← hget, List.getElem_cons_drop, List.take_append_drop]
  have hset : (pre ++ f :: post).set pre.length (f.retyped word) = pre ++
    f.retyped word :: post := by simp
  rw [List.take_left] at hnew
  obtain ⟨ds, rs, seen', hseen, hrun⟩ := exists_resolveFrom_append checks owner root
    seen position pre
  have hfresh : ¬ (checks.duplicates && seen'.contains f.name) = true := by
    simpa [hseen] using hnew
  have hfresh' : ¬ (checks.duplicates && seen'.contains (f.retyped word).name) = true := hfresh
  let later := resolveFrom checks owner root (f.name :: seen') (position + pre.length + 1) post
  rw [hset, hrun, hrun, resolveFrom_of_new hfresh, resolveFrom_of_new hfresh',
    resolveField_of_ok ht, resolveField_of_error (typeOf_retyped hword)]
  refine ⟨ds.filter Diagnostic.isError, later.1.filter Diagnostic.isError, rs, later.2,
    ?_, ?_, rfl, rfl⟩
  · rw [List.filter_append, List.filter_append, errors_nameWarning, List.nil_append]
  · rw [List.filter_append, List.filter_append, List.filter_append, errors_nameWarning]
    rfl

/-- Such a field makes no more misuse, and no less, if its word can be told. -/
theorem misuseFrom?_set (hf : fs[n]? = some f) (hmisuse : typeMisuse? f owner = none)
    (hmisuse' : typeMisuse? (f.retyped word) owner = none) :
    misuseFrom? checks owner seen (fs.set n (f.retyped word)) =
      misuseFrom? checks owner seen fs := by
  induction fs generalizing seen n with
  | nil => simp at hf
  | cons g fs ih =>
    cases n with
    | zero =>
      obtain rfl : g = f := by simpa using hf
      simp only [List.set_cons_zero, misuseFrom?, hmisuse, hmisuse']
      rfl
    | succ n =>
      have hf : fs[n]? = some f := by simpa using hf
      rw [List.set_cons_succ, misuseFrom?, misuseFrom?, ih hf, ih hf]

end ResolveFrom

section Keys

variable {authored : List AuthoredField} {n : Nat} {f : AuthoredField} {word : String}

/-- Whether the first field of a name is a primary key. -/
def namesKey (authored : List AuthoredField) (name : String) : Bool :=
  (authored.find? fun f => f.name == name).any isPrimary

theorem map_fst_authoredOf? (name : String) :
    (authoredOf? authored name).map (·.1) = authored.find? fun f => f.name == name := by
  have hfirst : authored.zipIdx.map Prod.fst = authored := List.zipIdx_map_fst 0 authored
  conv_rhs => rw [← hfirst, List.find?_map]
  rfl

theorem primary_asPrimary (f : AuthoredField) (r : Field) : (r.asPrimary f).primary = true := by
  rcases asPrimary_cases f r with h | ⟨-, h⟩ | h <;> rw [h]

theorem primary_markPrimary {r : Field} (hr : r.primary = false) :
    (markPrimary authored r).primary = namesKey authored r.name := by
  rw [namesKey, ← map_fst_authoredOf?, markPrimary]
  cases authoredOf? authored r.name with
  | none => exact hr
  | some found =>
    obtain ⟨g, k⟩ := found
    by_cases hkey : isPrimary g = true
    · simp [hkey, primary_asPrimary]
    · simp [hkey, hr]

/-- What does not depend on the type of a field, or its relation, stays with another type. -/
theorem map_set_retyped {α : Type} {g : AuthoredField → α} (hg : g (f.retyped word) = g f)
    (hf : authored[n]? = some f) : (authored.set n (f.retyped word)).map g = authored.map g := by
  obtain ⟨hn, rfl⟩ := List.getElem?_eq_some_iff.mp hf
  have hmap : n < (authored.map g).length := by simpa using hn
  rw [List.map_set, hg, ← List.getElem_map g (h := hmap), List.set_getElem_self]

/-- The type of a field is of no account for which names are keys. -/
theorem namesKey_set (hf : authored[n]? = some f) :
    namesKey (authored.set n (f.retyped word)) = namesKey authored := by
  have same : ∀ fs : List AuthoredField, namesKey fs = fun name =>
      ((fs.map fun g => (g.name, isPrimary g)).find? fun g => g.1 == name).any (·.2) := by
    intro fs
    funext name
    rw [namesKey, List.find?_map, Option.any_map]
    rfl
  rw [same, same, map_set_retyped rfl hf]

theorem find?_of_new (hf : authored[n]? = some f) (hnew : f.name ∉ (authored.take n).map (·.name)) :
    authored.find? (fun g => g.name == f.name) = some f := by
  rw [← map_fst_authoredOf?, authoredOf?_of_new hf hnew]
  rfl

theorem primary_of_mem_resolveFrom {checks : FieldChecks} {owner root : String} {seen : List String}
    {position : Nat} {r : Field} (h : r ∈ (resolveFrom checks owner root seen
      position authored).2) :
    r.primary = false := by
  obtain ⟨f, -, t, -, rfl⟩ := exists_of_mem_resolveFrom h
  rfl

/-- The keys of an entity are the names of its resolved fields that are names of keys. -/
theorem keys_markedFields (i : Intent.AddEntity) :
    ((markedFields i).filter (·.primary)).map (·.name) =
      ((resolveFields ⟨true, true⟩ i.entity "$.fields" i.fields).2.map (·.name)).filter
        (namesKey i.fields) := by
  have hmarked : (resolveFields ⟨true, true⟩ i.entity "$.fields" i.fields).2.filter
        ((·.primary) ∘ markPrimary i.fields) =
      (resolveFields ⟨true, true⟩ i.entity "$.fields" i.fields).2.filter
        (namesKey i.fields ∘ (·.name)) :=
    List.filter_congr fun r hr => primary_markPrimary (primary_of_mem_resolveFrom hr)
  rw [markedFields, List.filter_map, List.filter_map, List.map_map, hmarked]
  exact List.map_congr_left fun r _ => name_markPrimary r

end Keys
end Resolved
end SchemaIntents
