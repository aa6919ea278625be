import SchemaIntents.Proofs.Intent.Soundness
import SchemaIntents.Proofs.Resolved.Fields
import SchemaIntents.Proofs.Resolved.Steps

/-! Fields that their authors name and bound well are resolved to fields within the bounds of the
schema, and nothing but an error keeps one of them out. -/
namespace SchemaIntents

namespace Resolved

open Intent (AuthoredField)

theorem mem_of_lookup {key word : String} {words : List (String × String)}
    (h : words.lookup key = some word) : word ∈ words.map (·.2) := by
  obtain ⟨before, after, rfl, -⟩ := List.lookup_eq_some_iff.mp h
  simp

theorem scalarKind_of_lookup {token kind : String} (h : scalarWords.lookup token = some kind) :
    kind ∈ Ir.scalarKinds := by
  have kinds : ∀ k ∈ scalarWords.map (·.2), k ∈ Ir.scalarKinds := by decide
  exact kinds kind (mem_of_lookup h)

theorem enumeration_ne (owner name : String) : Naming.enumeration owner name ≠ "" := by
  intro h
  have := congrArg String.toList h
  simp [Naming.enumeration] at this

theorem sound_of_ofWord {word element : Option String} {enumValues : Option (List String)}
    {enumName : String} {t : FieldType} (hname : enumName ≠ "")
    (h : FieldType.ofWord word enumValues element (some enumName) = .ok t) : t.Sound := by
  simp only [FieldType.ofWord] at h
  generalize Text.normalize (word.getD "") = token at h
  cases hword : scalarWords.lookup token with
  | some kind =>
    obtain rfl : .scalar kind = t := by simpa [hword] using h
    exact scalarKind_of_lookup hword
  | none =>
    simp only [hword] at h
    by_cases hjson : token = "json"
    · rw [if_pos hjson] at h
      obtain rfl := Except.ok.inj h
      trivial
    rw [if_neg hjson] at h
    by_cases henum : token = "enum"
    · rw [if_pos henum] at h
      cases hvalues : enumValues.getD [] with
      | nil => simp [hvalues] at h
      | cons value values =>
        simp only [hvalues] at h
        split at h
        · simp at h
        · rename_i hempty
          obtain rfl := Except.ok.inj h
          exact ⟨hname, by simp, by simpa using hempty⟩
    rw [if_neg henum] at h
    by_cases harray : token = "array"
    · rw [if_pos harray] at h
      cases he : element.filter (· != "") with
      | none => simp [he] at h
      | some e =>
        simp only [he] at h
        split at h
        · rename_i hkind
          obtain rfl := Except.ok.inj h
          exact scalarKind_of_lookup (Option.ite_none_right_eq_some.mp hkind).2
        · simp at h
    rw [if_neg harray] at h
    split at h <;> simp at h

theorem deleteAction_mem {word action : String} (h : deleteAction word = .ok action) :
    action ∈ ["Restrict", "Cascade", "SetNull"] := by
  have actions : ∀ a ∈ deleteActions.map (·.2), a ∈ ["Restrict", "Cascade", "SetNull"] := by decide
  unfold deleteAction at h
  split at h
  · obtain rfl := Except.ok.inj h
    exact actions _ (mem_of_lookup ‹_›)
  · simp at h

theorem fieldName_of_reverseSide {kind : String} {r : Intent.Reverse} {side : ReverseSide}
    (h : reverseSide kind r = .ok side) : side.fieldName = r.fieldName := by
  simp only [reverseSide] at h
  split at h
  · obtain rfl := Except.ok.inj h
    rfl
  · simp at h

/-- What a reference takes from its relation: its target, whether an attribute lets it be empty, the
action of another, and the other side. -/
theorem ofRelation_eq_ok {r : Intent.Relation} {name : String} {nullable : Bool}
    {reference : Reference} (h : Reference.ofRelation r name nullable = .ok reference) :
    reference.targetEntity = r.targetEntity ∧
      reference.nullable =
        (nullable || Intent.Attribute.has r.attributes ["nullable", "optional"]) ∧
      (∀ a, reference.onDelete = some a → ∃ word, deleteAction word = .ok a) ∧
      ∀ side, reference.reverse = some side →
        ∃ s, r.reverse = some s ∧ reverseSide r.kind s = .ok side := by
  have given : ∀ {α : Type} {x : Except TypeFault α} {f : Option α → Except TypeFault Reference},
      ((some <$> x) >>= f) = .ok reference → ∃ a, x = .ok a ∧ f (some a) = .ok reference := by
    intro α x f hx
    cases x with
    | error fault => simp [Functor.map, Except.map, bind, Except.bind] at hx
    | ok a => exact ⟨a, rfl, hx⟩
  unfold Reference.ofRelation at h
  split at h
  case h_2 => exact absurd h throw_ne_ok
  case h_1 cardinality _ =>
  cases hd : onDeleteValue? r with
  | none =>
    cases hr : r.reverse with
    | none =>
      simp only [hd, hr] at h
      obtain rfl := Except.ok.inj h
      simp
    | some s =>
      simp only [hd, hr] at h
      obtain ⟨side, hs, h⟩ := given h
      obtain rfl := Except.ok.inj h
      simp [hs]
  | some v =>
    simp only [hd] at h
    obtain ⟨action, ha, h⟩ := given h
    cases hr : r.reverse with
    | none =>
      simp only [hr] at h
      obtain rfl := Except.ok.inj h
      simpa using ⟨_, ha⟩
    | some s =>
      simp only [hr] at h
      obtain ⟨side, hs, h⟩ := given h
      obtain rfl := Except.ok.inj h
      simpa [hs] using ⟨_, ha⟩

theorem sound_of_ofRelation {r : Intent.Relation} {name : String} {nullable : Bool}
    {reference : Reference} (hr : r.Sound)
    (h : Reference.ofRelation r name nullable = .ok reference) : reference.Sound := by
  obtain ⟨htarget, -, hdelete, hreverse⟩ := ofRelation_eq_ok h
  refine ⟨htarget ▸ hr.targetEntity_proper, fun a ha => ?_, fun side hside => ?_⟩
  · obtain ⟨word, hword⟩ := hdelete a ha
    exact deleteAction_mem hword
  · obtain ⟨s, hs, hback⟩ := hreverse side hside
    exact fieldName_of_reverseSide hback ▸ hr.reverse_proper s hs

/-- The type of an authored field keeps to the bounds, if there is one. -/
theorem sound_of_typeOf {f : AuthoredField} {owner : String} {t : FieldType} (hf : f.Sound)
    (h : typeOf f owner = .ok t) : t.Sound := by
  unfold typeOf at h
  split at h
  · refine sound_of_ofWord ?_ h
    cases hn : f.enumName with
    | none => exact enumeration_ne owner f.name
    | some n => exact hf.enumName_ne n hn
  · rename_i r hr
    have of_reference : ∀ {c : Except TypeFault Reference},
        c = Reference.ofRelation r f.name f.optional →
        (c >>= fun reference => .ok (.reference reference)) = .ok t → t.Sound := by
      rintro c rfl h
      obtain ⟨reference, href, h⟩ := bind_eq_ok h
      obtain rfl := Except.ok.inj h
      exact sound_of_ofRelation (hf.relation_sound r hr) href
    split at h
    · obtain ⟨_, -, h⟩ := bind_eq_ok h
      exact of_reference rfl h
    · exact of_reference rfl h

theorem sound_of_ofValue? {v : Value} {d : Default} (h : Default.ofValue? v = some d) :
    d.Sound := by
  cases v <;> simp only [Default.ofValue?] at h <;> grind [Default.Sound, Shape.isScalar]

theorem sound_of_defaultOf {f : AuthoredField} {d : Default} (h : defaultOf f = some d) :
    d.Sound := by
  unfold defaultOf at h
  rcases Option.or_eq_some_iff.mp h with h | ⟨-, h⟩
  · exact sound_of_ofValue? h
  · grind [Default.Sound]

theorem sound_of_mem_validations {f : AuthoredField} {v : Validation} (hf : f.Sound)
    (h : v ∈ Validation.ofField f) : v.Sound := by
  simp only [Validation.ofField, List.mem_append, Option.mem_toList,
    Option.map_eq_some_iff] at h
  rcases h with (((⟨n, hn, rfl⟩ | ⟨n, hn, rfl⟩) | ⟨p, -, rfl⟩) | ⟨x, -, rfl⟩) | ⟨x, -, rfl⟩
  · exact hf.maxLength_pos n hn
  · exact hf.minLength_nonneg n hn
  · trivial
  · trivial
  · trivial

/-- A resolved field keeps to the bounds. -/
theorem sound_of_ofAuthored {f : AuthoredField} {owner : String} {t : FieldType} (hf : f.Sound)
    (h : typeOf f owner = .ok t) : (Field.ofAuthored f t).Sound where
  name_proper := hf.name_proper
  type_sound := sound_of_typeOf hf h
  default_sound := fun _ hd => sound_of_defaultOf hd
  validations_sound := fun _ hv => sound_of_mem_validations hf hv

theorem sound_of_mem_resolveFrom {checks : FieldChecks} {owner root : String} {seen : List String}
    {position : Nat} {fs : List AuthoredField} (hfs : ∀ f ∈ fs, f.Sound) {r : Field}
    (h : r ∈ (resolveFrom checks owner root seen position fs).2) : r.Sound := by
  obtain ⟨f, hf, t, ht, rfl⟩ := exists_of_mem_resolveFrom h
  exact sound_of_ofAuthored (hfs f hf) ht

end Resolved
end SchemaIntents
