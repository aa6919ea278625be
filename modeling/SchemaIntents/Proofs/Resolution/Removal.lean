import SchemaIntents.Proofs.Draft.Entity
import SchemaIntents.Proofs.Json.Ordering

/-! Fields that go. Each is named once in the envelope, in the place where the intent names it
first, and names that the intent lists again are warned of together, in their order. -/
namespace SchemaIntents

open Shape

namespace Draft

section Names

variable {names : List String} {n : String}

theorem mem_firstOccurrences : n ∈ firstOccurrences names ↔ n ∈ names := by
  induction names with
  | nil => rfl
  | cons m ms ih =>
    rw [firstOccurrences, List.mem_cons, List.mem_cons, List.mem_filter, ih, bne_iff_ne]
    by_cases hn : n = m <;> simp [hn]

/-- Names stay in the order in which they stand first. -/
theorem firstOccurrences_pairwise (names : List String) :
    (firstOccurrences names).Pairwise fun m n => names.idxOf m < names.idxOf n := by
  induction names with
  | nil => exact .nil
  | cons k ks ih =>
    have later {m : String} (hm : m ∈ (firstOccurrences ks).filter (· != k)) :
        (k :: ks).idxOf m = (ks.idxOf m).succ := by
      have hne : m ≠ k := by simpa using (List.mem_filter.mp hm).2
      exact List.idxOf_cons_ne ks hne.symm
    rw [firstOccurrences, List.pairwise_cons]
    constructor
    · intro m hm
      rw [List.idxOf_cons_self, later hm]
      exact Nat.succ_pos _
    · refine (ih.filter _).imp_of_mem fun {m n} hm hn hmn => ?_
      rw [later hm, later hn]
      exact Nat.succ_lt_succ hmn

theorem nodup_firstOccurrences (names : List String) : (firstOccurrences names).Nodup := by
  refine (firstOccurrences_pairwise names).imp fun {m n} hmn heq => ?_
  rw [heq] at hmn
  exact Nat.lt_irrefl _ hmn

theorem firstOccurrences_sublist (names : List String) :
    (firstOccurrences names).Sublist names := by
  induction names with
  | nil => exact .slnil
  | cons n ns ih => exact (List.filter_sublist.trans ih).cons_cons n

/-- As many names are left as were listed just when none is listed again: equal lengths leave
nothing out. -/
theorem length_firstOccurrences_eq_iff :
    (firstOccurrences names).length = names.length ↔ names.Nodup := by
  constructor
  · intro hlength
    have hsame := (firstOccurrences_sublist names).eq_of_length hlength
    exact hsame ▸ nodup_firstOccurrences names
  · intro hnodup
    have hperm : (firstOccurrences names).Perm names :=
      (List.perm_ext_iff_of_nodup (nodup_firstOccurrences names) hnodup).mpr fun _ =>
        mem_firstOccurrences
    exact hperm.length_eq

theorem not_nodup_iff : ¬ names.Nodup ↔ ∃ n, 1 < names.count n := by
  rw [List.nodup_iff_count_le_one, not_forall]
  exact exists_congr fun n => Nat.not_le

theorem repeated_perm (names : List String) :
    (repeated names).Perm ((firstOccurrences names).filter fun n => 1 < names.count n) := by
  refine ((Json.sortBy_perm _).map _).trans (.of_eq ?_)
  rw [List.map_map]
  exact List.map_id _

theorem mem_repeated : n ∈ repeated names ↔ 1 < names.count n := by
  rw [(repeated_perm names).mem_iff, List.mem_filter, mem_firstOccurrences, decide_eq_true_eq]
  refine and_iff_right_of_imp fun hcount => ?_
  exact List.count_pos_iff.mp (Nat.lt_trans Nat.zero_lt_one hcount)

/-- Names that are listed again stand in the order of their code points, each once. -/
theorem repeated_pairwise (names : List String) : (repeated names).Pairwise (· < ·) := by
  have hsorted : (repeated names).Pairwise (· ≤ ·) := by
    have h := Json.sortBy_pairwise Json.orders_textAtMost
      (((firstOccurrences names).filter fun n => 1 < names.count n).map fun n => (n, ()))
    simpa [repeated, List.pairwise_map, Json.textAtMost] using h
  have hnodup : (repeated names).Nodup :=
    (repeated_perm names).nodup_iff.mpr ((nodup_firstOccurrences names).filter _)
  exact hsorted.imp₂ (fun m n hle hne => Std.lt_of_le_of_ne hle hne) hnodup

end Names

section Warning

variable {names : List String} {d : Diagnostic}

/-- There is a warning just when some name is listed again, and it names all that are. -/
theorem mem_repeatedWarning : d ∈ repeatedWarning names ↔ ¬ names.Nodup ∧
    d = ⟨"IR040", .warning, "Duplicate field names in remove list: " ++
      Value.commaSeparated (repeated names), "$.fields"⟩ := by
  rw [repeatedWarning]
  split
  case isTrue hall => simp [length_firstOccurrences_eq_iff.mp hall]
  case isFalse hfewer => simp [mt length_firstOccurrences_eq_iff.mpr hfewer]

theorem length_repeatedWarning_le (names : List String) : (repeatedWarning names).length ≤ 1 := by
  unfold repeatedWarning
  split <;> simp

/-- Where no error comes up, all that is reported of fields that go is that some are listed
again. -/
theorem diagnostics_removeField {c : Context} {i : Intent.RemoveField}
    (h : (removeField c i).diagnostics.any Diagnostic.isError = false) :
    (removeField c i).diagnostics = repeatedWarning i.fields := by
  simp only [removeField, List.any_append, Bool.or_eq_false_iff] at h ⊢
  rw [lookUp_eq_nil h.1, List.nil_append]

end Warning
end Draft

/-- An envelope and what was reported about it, for the fields that the intent takes away. -/
structure Ir.Part.IsRemovalOf (ir : Part) (i : Intent.RemoveField) : Prop where
  entity_eq : (ir.get "entity_name").text = i.entity
  names_nodup : (texts ir "field_names").Nodup
  mem_names : ∀ n, n ∈ texts ir "field_names" ↔ n ∈ i.fields
  names_ordered : (texts ir "field_names").Pairwise fun m n => i.fields.idxOf m < i.fields.idxOf n
  fewer_iff : (texts ir "field_names").length ≠ i.fields.length ↔ ∃ n, 1 < i.fields.count n
  reported_iff : (∃ d ∈ ir.diagnostics, d.code = "IR040") ↔ ∃ n, 1 < i.fields.count n
  reported_once : ir.diagnostics.countP (·.code = "IR040") ≤ 1
  reported : ∀ d ∈ ir.diagnostics, d.code = "IR040" → ∃ again : List String,
    again.Pairwise (· < ·) ∧ (∀ n, n ∈ again ↔ 1 < i.fields.count n) ∧
    d = ⟨"IR040", .warning,
      "Duplicate field names in remove list: " ++ String.intercalate ", " again, "$.fields"⟩

namespace Resolution

open Draft

variable {c : Context} {now : DateTime} {s : Intent.Submission} {ir : Ir.Part}

/-- The fields of an intent are the texts that its mapping lists. -/
theorem fields_of_parse {es : List (String × Value)} {names : List String} {p : Intent.Part}
    (h : Intent.parse .removeField (.obj es) = .ok p)
      (hnames : Value.find? "fields" es = some (.texts names)) :
    (Intent.RemoveField.ofPart p).fields = names := by
  have hlist := Instance.field_of_checker (f := .required "fields" "fields" (.list 1 .anyText))
    (Intent.names_nodup _) h (by simp [Intent.schema, Intent.removeField]) hnames
  have hread : (Intent.RemoveField.ofPart p).fields = (p.get "fields").items.map Instance.text := by
    rw [Intent.RemoveField.ofPart, Intent.Part.texts?, Intent.Part.items?]
    cases p.get "fields" <;> rfl
  exact hread.trans (texts_of_checker hlist)

/-- Of the fields that go, each is named once in the envelope, in the order in which the intent
names them first. One warning names those that are listed again, in their order, and there is none
if no field is. -/
theorem isRemovalOf_of_ofKind (h : (ofKind .removeField c now s).result = .ok ir) :
    ∃ p, s.read .removeField = .ok p ∧ ir.IsRemovalOf (.ofPart p) ∧
      ∀ es names, s = .plain (.obj es) → Value.find? "fields" es = some (.texts names) →
        (Intent.RemoveField.ofPart p).fields = names := by
  obtain ⟨p, d, hp, hd, -, hs⟩ := ofKind_eq_ok h
  obtain rfl := Except.ok.inj hd
  refine ⟨p, hp, ?_, ?_⟩
  · generalize Intent.RemoveField.ofPart p = i at hs
    obtain ⟨herr, hpayload⟩ := settle_eq_ok hs
    have hreports : ir.diagnostics = repeatedWarning i.fields := by
      rw [← diagnostics_removeField herr]
      exact diagnostics_of_settle (k := .removeField) rfl (by simp [removeField]; decide) hs
    have hentity : (ir.get "entity_name").text = i.entity :=
      text_of_payload (f := .required "entity_name" "entityName" .someText) hpayload
        (by simp [removeField, Ir.schema, Ir.removeField]) rfl rfl
    have hlist := Instance.field_of_checker
      (f := .required "field_names" "fieldNames" (.list 1 .someText)) (Ir.names_nodup _) hpayload
      (by simp [removeField, Ir.schema, Ir.removeField]) rfl
    have hnames : Ir.Part.texts ir "field_names" = firstOccurrences i.fields :=
      texts_of_checker hlist
    exact {
      entity_eq := hentity
      names_nodup := hnames ▸ nodup_firstOccurrences i.fields
      mem_names := fun n => hnames ▸ mem_firstOccurrences
      names_ordered := hnames ▸ firstOccurrences_pairwise i.fields
      fewer_iff := by rw [hnames, Ne, length_firstOccurrences_eq_iff, not_nodup_iff]
      reported_iff := by
        rw [hreports, ← not_nodup_iff]
        constructor
        · rintro ⟨d, hd, -⟩
          exact (mem_repeatedWarning.mp hd).1
        · exact fun hrepeated => ⟨_, mem_repeatedWarning.mpr ⟨hrepeated, rfl⟩, rfl⟩
      reported_once := hreports ▸ Nat.le_trans List.countP_le_length
        (length_repeatedWarning_le i.fields)
      reported := by
        intro d hd _
        rw [hreports] at hd
        exact ⟨repeated i.fields, repeated_pairwise i.fields, fun n => mem_repeated,
          (mem_repeatedWarning.mp hd).2⟩ }
  · rintro es names rfl hnames
    exact fields_of_parse hp hnames

/-- Of three fields that are listed again, two are listed twice and one three times. -/
theorem isRemovalOf_of_ofKind_thrice :
    let c : Context := ⟨"intent", "project", "0.1.0", none, some ["User"], ⟨true, .snake⟩⟩
    let now : DateTime := ⟨⟨2024, 1, 2⟩, 12, 0, 0, 0, none⟩
    let listed := ["born", "éclat", "age", "born", "Zip", "éclat", "age", "born"]
    let v : Value := .obj [("kind", .str "remove_field"), ("scope", .str "data"),
      ("entity", .str "User"), ("fields", .texts listed)]
    ∃ ir p, (ofKind .removeField c now (.plain v)).result = .ok ir ∧
      Intent.parse .removeField v = .ok p ∧
      ir.IsRemovalOf (.ofPart p) ∧ (Intent.RemoveField.ofPart p).fields = listed ∧
      Ir.Part.texts ir "field_names" = ["born", "éclat", "age", "Zip"] ∧
      ir.diagnostics = [⟨"IR040", .warning,
        "Duplicate field names in remove list: age, born, éclat", "$.fields"⟩] := by
  intro c now listed v
  have accepted : (ofKind .removeField c now (.plain v)).result.toOption.map
      (fun ir => (Ir.Part.texts ir "field_names", ir.diagnostics)) =
        some (["born", "éclat", "age", "Zip"], [⟨"IR040", .warning,
          "Duplicate field names in remove list: age, born, éclat",
            "$.fields"⟩]) := by decide +kernel
  obtain ⟨ir, hir, hsame⟩ := Option.map_eq_some_iff.mp accepted
  obtain ⟨hnames, hreports⟩ := Prod.mk.inj hsame
  have hresolved := eq_ok_of_toOption hir
  obtain ⟨p, hp, hremoval, hlisted⟩ := isRemovalOf_of_ofKind hresolved
  exact ⟨ir, p, hresolved, hp, hremoval, hlisted _ _ rfl rfl, hnames, hreports⟩

end Resolution
end SchemaIntents
