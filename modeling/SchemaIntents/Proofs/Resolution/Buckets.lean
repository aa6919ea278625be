import SchemaIntents.Proofs.Resolution.Capability
import SchemaIntents.Proofs.Shape.Places

/-! Whether the buckets of a storage are public. A bucket is private only if its author wrote the
truth value itself. The schema of envelopes would read more as false, such as zero or a word; a
bucket that says so is public. -/
namespace SchemaIntents

open Intent (AddCapability Kind)
open Resolved Resolved.Overlay
open Shape Value

variable {c : Context} {now : DateTime} {i : AddCapability} {l : Nat}

namespace Resolved.Overlay

/-- A bucket says that it is not public, in a way that the schema of envelopes reads so. -/
def ReadsPrivate (bucket : Value) : Prop :=
  (bucket.get "public").check Ir.schema .flag = .ok (.plain (.bool false))

/-- A bucket of an envelope is private if its author wrote the truth value, and public otherwise. -/
def IsBucketOf (bucket : Value) (q : Ir.Part) : Prop :=
  (bucket.get "public" = .bool false ∧ q.get "public" = .plain (.bool false)) ∨
    (bucket.get "public" ≠ .bool false ∧ q.get "public" = .plain (.bool true))

/-- What a bucket is written with: it is not public if its author wrote the truth value, and is
else. -/
theorem exists_entries_bucket (bucket : Value) :
    ∃ es b, bucketValue bucket = .obj es ∧ find? "public" es = some (.bool b) ∧
      (b = false ↔ bucket.get "public" = .bool false) := by
  refine ⟨_, _, rfl, rfl, ?_⟩
  split <;> simp_all

theorem isBucketOf_of_checker {bucket : Value} {q : Ir.Part}
    (h : (bucketValue bucket).checker Ir.schema l (.model .storageBucket) = .ok q) :
    IsBucketOf bucket q := by
  obtain ⟨es, b, hes, hfind, hb⟩ := exists_entries_bucket bucket
  rw [hes] at h
  have hflag := Instance.field_of_checker (f := .required "public" "public" .flag)
    (Ir.names_nodup _) h (by simp [Ir.schema, Ir.storageBucket]) hfind
  have hpublic : q.get "public" = .plain (.bool b) := (Except.ok.inj hflag).symm
  cases b with
  | false => exact .inl ⟨hb.mp rfl, hpublic⟩
  | true => exact .inr ⟨fun hfalse => by simpa using hb.mpr hfalse, hpublic⟩

/-- The buckets of a storage are read one for one. -/
theorem buckets_of_checker {q : Ir.Part}
    (h : (storage i).value.checker Ir.schema l Ir.overlay = .ok q) :
    List.Forall₂ IsBucketOf i.buckets (q.get "buckets").items := by
  obtain ⟨es, hes, htype, hbuckets⟩ : ∃ es, (storage i).value = .obj es ∧
      find? "type" es = some (.str "storage") ∧
      find? "buckets" es = some (.list (i.buckets.map bucketValue)) :=
    ⟨_, rfl, by simp, by simp⟩
  rw [hes] at h
  have hm := model_of_tagged (n := Ir.Name.storageOverlay) htype rfl h
  have hlist := Instance.field_of_checker
    (f := .required "buckets" "buckets" (.list 0 (.model Ir.Name.storageBucket)))
      (Ir.names_nodup _) hm
    (by simp [Ir.schema, Ir.storageOverlay]) hbuckets
  simp only [Field.required, checker_list_list] at hlist
  obtain ⟨is, his, -, hitems⟩ := checkList_eq_ok.mp hlist
  rw [Ir.Part.get, his]
  exact (List.forall₂_map_left_iff.mp hitems).imp fun _ _ => isBucketOf_of_checker

end Resolved.Overlay

namespace Draft

variable {d : Draft} {ir : Ir.Part}

theorem buckets_of_settle (h : addCapability c i = .ok d) (hs : d.settle c now = .ok ir)
    (hstorage : i.capability = "storage") :
    List.Forall₂ IsBucketOf i.buckets (((ir.get "capability").get "overlay").get
      "buckets").items := by
  obtain ⟨made, hmade, hmodel, -, hbody, -, -⟩ := addCapability_eq_ok h
  obtain rfl : made = some (Overlay.storage i) := by
    rcases ofCapability?_cases hmade with ⟨hi, -⟩ | ⟨-, ho⟩ | ⟨hi, -⟩ | ⟨hi, -⟩ | ⟨hi, -⟩ | ⟨hi, -⟩
    case inr.inl => exact ho
    all_goals simp [hstorage, overlaid] at hi
  have hcapability := checker_of_settle (k := .addCapability) hmodel rfl hbody hs
  obtain ⟨es, hes, hfind⟩ := exists_entries_capability i (some (Overlay.storage i))
  rw [hes] at hcapability
  have hoverlay := Instance.field_of_checker (f := .maybe "overlay" "overlay" Ir.overlay)
    (Ir.names_nodup _) hcapability (by simp [Ir.schema, Ir.capability]) hfind
  obtain ⟨fs, hvalue, -⟩ := exists_obj_of_ofCapability? hmade
  simp only [Field.maybe] at hoverlay
  rw [checker_optional (by simp [hvalue])] at hoverlay
  exact buckets_of_checker hoverlay

end Draft

namespace Intent

variable {es : List (String × Value)} {p : Part} {vs : List Value}

/-- Buckets that are given as JSON stay as they are when the intent is read. -/
theorem buckets_of_checker (hes : (Value.obj es).IsJson)
    (h : (Value.obj es).checker schema l (.model .addCapability) = .ok p)
    (hvs : find? "buckets" es = some (.list vs)) : (AddCapability.ofPart p).buckets = vs := by
  have hc := Instance.field_of_checker (f := .maybe "buckets" "buckets" (.list 0 .mapping))
    (names_nodup _) h (by simp [schema, addCapability]) hvs
  simp only [Field.maybe] at hc
  rw [checker_optional (by simp), checker_list_list] at hc
  obtain ⟨is, his, -, hitems⟩ := checkList_eq_ok.mp hc
  have hjson := isJson_list.mp (isJson_obj.mp hes _ (mem_of_find? hvs))
  have same : is.map Instance.value = vs := by
    rw [← List.forall₂_eq_eq_eq, List.forall₂_map_left_iff]
    refine ((List.forall₂_and_left _ _).mpr ⟨hjson, hitems⟩).flip.imp ?_
    rintro i w ⟨hw, hread⟩
    have hnot : ∀ es, w ≠ .map es := by
      rintro es rfl
      cases hw
    rw [(eq_of_checker_mapping hread).1, withTextKeys_eq_self hnot]
    rfl
  simp only [AddCapability.ofPart, Part.items?, Part.get, his, Instance.items?,
    Option.getD_some, same]

end Intent

namespace Resolution

variable {s : Intent.Submission} {ir : Ir.Part}

/-- Of a storage that comes to an envelope, a bucket is private there just when its author gave it
the truth value. One that says it in another way is public, though the envelope would read that as
false. -/
theorem bucket_private_iff (h : (ofKind .addCapability c now s).result = .ok ir) :
    ∃ p, s.read Kind.addCapability.model = .ok p ∧
      (∀ v vs, s = .plain v → v.IsJson → v.at? [.key "buckets"] = some (.list vs) →
        (AddCapability.ofPart p).buckets = vs) ∧
      ((AddCapability.ofPart p).capability = "storage" →
        List.Forall₂ (fun (bucket : Value) (q : Ir.Part) =>
            (q.get "public" = .plain (.bool false) ↔ bucket.get "public" = .bool false) ∧
              (ReadsPrivate bucket → bucket.get "public" ≠ .bool false →
                q.get "public" = .plain (.bool true)))
          (AddCapability.ofPart p).buckets
          (((ir.get "capability").get "overlay").get "buckets").items) := by
  obtain ⟨p, d, hp, hd, -, hs⟩ := ofKind_eq_ok h
  refine ⟨p, hp, ?_, fun hstorage => ?_⟩
  · rintro v vs rfl hv hat
    obtain ⟨es, w, rfl, hw, hvs⟩ := of_at?_key hat
    obtain rfl : w = .list vs := by simpa [Value.at?] using hvs
    rw [Intent.Submission.read, Intent.parse, Value.check_eq_checker] at hp
    exact Intent.buckets_of_checker hv hp hw
  · refine (Draft.buckets_of_settle hd hs hstorage).imp fun bucket q hq => ?_
    rcases hq with ⟨hfalse, hpublic⟩ | ⟨hother, hpublic⟩
    · simp [hfalse, hpublic]
    · simp [hother, hpublic]

/-- A storage with three buckets that are all meant to be private: one has the truth value, one a
number, and one a word. -/
def vault : Value := .obj [
  ("kind", .str "add_capability"), ("scope", .str "capability"), ("capability", .str "storage"),
  ("framework", .str "next"), ("buckets", .list [
    .obj [("name", .str "deeds"), ("public", .bool false)],
    .obj [("name", .str "letters"), ("public", .int 0)],
    .obj [("name", .str "photos"), ("public", .str "False")]])]

/-- Only the first of them is private. -/
theorem bucket_private_iff_vault :
    let c : Context := ⟨"intent", "project", "0.1.0", none, none, ⟨true, .snake⟩⟩
    let now : DateTime := ⟨⟨2024, 1, 2⟩, 12, 0, 0, 0, none⟩
    ∃ ir deeds letters photos : Ir.Part, (ofKind .addCapability c now (.plain vault)).result =
      .ok ir ∧
      (((ir.get "capability").get "overlay").get "buckets").items = [deeds, letters, photos] ∧
      deeds.get "public" = .plain (.bool false) ∧ letters.get "public" = .plain (.bool true) ∧
      photos.get "public" = .plain (.bool true) := by
  intro c now
  have accepted : (ofKind .addCapability c now (.plain vault)).result.isOk =
    true := by decide +kernel
  have authored : (Intent.parse .addCapability vault).toOption.map (fun p =>
      (AddCapability.ofPart p).capability) = some "storage" := by decide +kernel
  obtain ⟨ir, hresolved⟩ := exists_eq_ok accepted
  obtain ⟨p, hp, hbuckets, hprivate⟩ := bucket_private_iff hresolved
  rw [show Intent.parse .addCapability vault = .ok p from hp] at authored
  have hpairs := hprivate (by simpa [Except.toOption] using authored)
  rw [hbuckets vault _ rfl (by simp [vault]) rfl] at hpairs
  obtain ⟨deeds, _, hfirst, hrest, hitems⟩ := List.forall₂_cons_left_iff.mp hpairs
  obtain ⟨letters, _, hsecond, hlast, rfl⟩ := List.forall₂_cons_left_iff.mp hrest
  obtain ⟨photos, _, hthird, hnone, rfl⟩ := List.forall₂_cons_left_iff.mp hlast
  obtain rfl := List.forall₂_nil_left_iff.mp hnone
  exact ⟨ir, deeds, letters, photos, hresolved, hitems, hfirst.1.mpr rfl,
    hsecond.2 rfl (by simp [Value.get, Value.get?, find?]),
    hthird.2 rfl (by simp [Value.get, Value.get?, find?])⟩

end Resolution
end SchemaIntents
