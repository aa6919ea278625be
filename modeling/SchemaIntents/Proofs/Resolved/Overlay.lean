import Mathlib.Tactic.MkIffOfInductiveProp
import SchemaIntents.Proofs.Ir.Faithful
import SchemaIntents.Proofs.Shape.Deciding
import SchemaIntents.Proofs.Value.Json
import SchemaIntents.Resolved.Overlay

/-! The overlays of capabilities that fit the schema. What an author gives in place of a default
must be what the overlay has there, and nothing else can be wrong with one. -/
namespace SchemaIntents

open Shape

namespace Value

def IsText (v : Value) : Prop :=
  ∃ t, v = .str t

def IsTexts (v : Value) : Prop :=
  ∃ vs, v = .list vs ∧ ∀ w ∈ vs, w.IsText

/-- A value that is read as a whole number. -/
def IsWhole (v : Value) : Prop :=
  ∃ n, Scalar.readWhole v = .ok n

/-- One of some words. -/
def IsOneOf (words : List String) (v : Value) : Prop :=
  ∃ t ∈ words, v = .str t

end Value

namespace Resolved.Overlay

open Intent (AddCapability)

/-- The strategies of authentications. -/
def authStrategies : List String :=
  ["jwt", "session", "oauth", "magic-link", "passwordless"]

/-- The providers of billing. -/
def billingProviders : List String :=
  ["stripe", "paypal", "square", "braintree"]

/-- Where uploaded files can go. -/
def uploadDestinations : List String :=
  ["local", "s3", "gcs", "azure", "cloudinary"]

/-- A list of strategies, or a mapping that has them for its keys. -/
def AreStrategies : Value → Prop
  | .list vs => ∀ v ∈ vs, v.IsOneOf authStrategies
  | .obj es => ∀ e ∈ es, e.1 ∈ authStrategies
  | _ => False

/-- A bucket has a name, and what it says of sizes, types and caching can be used. -/
@[mk_iff]
structure IsBucket (bucket : Value) : Prop where
  name : (bucket.get "name").IsText
  size : pick bucket "file_size_limit" "fileSizeLimit" ≠ .null →
    (pick bucket "file_size_limit" "fileSizeLimit").IsWhole
  types : pick bucket "allowed_mime_types" "allowedMimeTypes" ≠ .null →
    (pick bucket "allowed_mime_types" "allowedMimeTypes").IsTexts
  cache : (pick bucket "cache_control" "cacheControl").truthy = true →
    (pick bucket "cache_control" "cacheControl").IsText

/-- An address for emails is a text of their form, without halves of pairs. -/
def IsAddress (v : Value) : Prop :=
  ∃ t, v = .str t ∧ Text.isTorn t = false ∧ Pattern.email.accepts t = true

/-- A sender of emails has an address, and the name that it has, if it has one, is a text. -/
def HasSender (config : List (String × Value)) (address : Value) : Prop :=
  IsAddress address ∧ ∀ name, truthy? "from_name" config = some name → name.IsText

/-- What counts in the configuration of uploads can be used. -/
@[mk_iff]
structure HasUploads (config : List (String × Value)) : Prop where
  size : ∀ v, truthy? "max_file_size" config = some v → v.IsWhole
  types : ∀ v, truthy? "allowed_types" config = some v → v.IsTexts
  destination : ∀ v, truthy? "destination" config = some v →
    v.IsOneOf uploadDestinations

/-- All that counts in an intent for a capability can be used in its overlay. -/
@[mk_iff]
structure Fits (i : AddCapability) : Prop where
  auth : i.capability = "auth" → ∀ v, truthy? "strategies" i.config = some v → AreStrategies v
  email : i.capability = "email" → ∀ v, truthy? "from_email" i.config = some v →
    HasSender i.config v
  storage : i.capability = "storage" → ∀ bucket ∈ i.buckets, IsBucket bucket
  provider : i.capability = "billing" → ∀ t, i.provider = some t → t ∈ billingProviders
  plans : i.capability = "billing" →
    ∀ plan ∈ i.plans, ∃ q, plan.check Ir.schema (.model .billingPlan) = .ok q
  uploads : i.capability = "file_upload" → HasUploads i.config

section Parts

variable {l : Nat} {v : Value}

theorem decides_isOneOf (words : List String) (v : Value) :
    Decides (v.checker Ir.schema l (.oneOf words)) (v.IsOneOf words) := by
  refine (flat_oneOf.decides v l).congr ?_
  simp [Value.check_eq_checker, checker_oneOf_eq_ok, Value.IsOneOf]

theorem decides_isWhole (v : Value) : Decides (v.checker Ir.schema l (.whole {})) v.IsWhole := by
  refine (flat_whole.decides v l).congr ?_
  simp [Value.check_eq_checker, checker_whole, readWith_eq_ok, Value.IsWhole, boundFault?]

theorem decides_isText (hv : v.IsJson) : Decides (v.checker Ir.schema l .anyText) v.IsText := by
  refine (flat_text.decides v l).congr ?_
  simp only [Value.check_eq_checker, checker_text, readWith_eq_ok, Value.IsText]
  cases hv <;> simp [Scalar.readText]

theorem decides_email (hv : v.IsJson) : Decides (v.checker Ir.schema l (.formed .email))
    (IsAddress v) := by
  refine (flat_text.decides v l).congr ?_
  simp only [Value.check_eq_checker, checker_text, readWith_eq_ok, IsAddress]
  cases hv <;> simp [Scalar.readText]

theorem decides_isTexts (hv : v.IsJson) :
    Decides (v.checker Ir.schema l (.list 0 .anyText)) v.IsTexts := by
  cases hv with
  | @list vs hvs =>
    refine (decides_list fun w hw => decides_isText (hvs w hw)).congr ?_
    simp [Value.IsTexts]
  | _ => exact ⟨[⟨.notList, []⟩], rfl, by simp [Value.IsTexts]⟩

end Parts

section Overlays

variable {l : Nat} {i : AddCapability}

/-- The strategies that an authentication has for its own. -/
theorem decides_auth {members : List Value} : Decides
    ((Value.obj [("type", .str "auth"), ("strategies", .list members), ("session", defaultSession),
      ("password", defaultPasswordPolicy)]).checker Ir.schema l Ir.overlay)
    (∀ v ∈ members, v.IsOneOf authStrategies) := by
  have session : Finds (defaultSession.checker Ir.schema l (.model .sessionConfig)) [] := ⟨_, rfl⟩
  have password : Finds (defaultPasswordPolicy.checker Ir.schema l (.model .passwordPolicy)) [] :=
    ⟨_, rfl⟩
  have strategies : Decides ((Value.list members).checker Ir.schema l
      (.list 0 (.oneOf authStrategies))) (∀ v ∈ members, v.IsOneOf authStrategies) :=
    (decides_list fun v _ => decides_isOneOf authStrategies v).congr (by simp)
  refine decides_tagged rfl rfl ((decides_obj
    (p := fun key => key = "strategies" → ∀ v ∈ members, v.IsOneOf authStrategies)
    (Nat.zero_le _) rfl rfl ?_).congr ?_)
  · simp [Ir.schema, Ir.authOverlay]
    simpa [Value.find?] using ⟨strategies, fits_optional session, fits_optional password⟩
  · simp [Ir.schema, Ir.authOverlay]

theorem truthy_of_truthy? {key : String} {es : List (String × Value)} {v : Value}
    (h : truthy? key es = some v) : v.truthy = true :=
  (Option.filter_eq_some_iff.mp h).2

theorem ne_null_of_truthy {v : Value} (h : v.truthy = true) : v ≠ .null := by
  rintro rfl
  simp [Value.truthy] at h

theorem isJson_of_truthy? {key : String} {es : List (String × Value)} {v : Value}
    (hes : ∀ e ∈ es, e.2.IsJson) (h : truthy? key es = some v) : v.IsJson :=
  hes _ (Value.mem_of_find? (Option.filter_eq_some_iff.mp h).1)

/-- What stands in place of an entry has a property that its fallback has if the entry has it. -/
theorem orElse_iff {p : Value → Prop} {key : String} {fallback : Value} {es : List (String × Value)}
    (hp : p fallback) : p (orElse key fallback es) ↔ ∀ v, truthy? key es = some v → p v := by
  rw [orElse]
  cases truthy? key es with
  | none => simpa using hp
  | some v => simp

theorem decides_sender {address name : Value} (haddress : address.IsJson) (hname : name.IsJson)
    (hnull : name ≠ .null) : Decides
    ((Value.obj [("email", address), ("name", name)]).checker Ir.schema l (.model .emailSender))
    (IsAddress address ∧ name.IsText) := by
  have email := decides_email (l := l) haddress
  have called := decides_isText (l := l) hname
  refine (decides_obj (p := fun key =>
    (key = "email" → IsAddress address) ∧ (key = "name" → name.IsText)) (Nat.zero_le _) rfl rfl
    ?_).congr ?_
  · simp [Ir.schema, Ir.emailSender]
    simpa [Value.find?, checker_optional hnull] using ⟨email, called⟩
  · simp [Ir.schema, Ir.emailSender]

theorem decides_emailOverlay (hconfig : ∀ e ∈ i.config, e.2.IsJson) :
    Decides ((email i).value.checker Ir.schema l Ir.overlay)
      (∀ v, truthy? "from_email" i.config = some v → HasSender i.config v) := by
  let name := orElse "from_name" (.str "Your App") i.config
  have hname : name.IsJson :=
    (orElse_iff (.str _)).mpr fun v hv => isJson_of_truthy? hconfig hv
  have hnull : name ≠ .null :=
    (orElse_iff (by simp)).mpr fun v hv => ne_null_of_truthy (truthy_of_truthy? hv)
  have hcalled : name.IsText ↔ ∀ w, truthy? "from_name" i.config = some w → w.IsText :=
    orElse_iff ⟨_, rfl⟩
  have sender : DecidesAt Ir.schema l (.optional (.model .emailSender)) true
      ((truthy? "from_email" i.config).map fun address => .obj [("email", address), ("name", name)])
      (∀ v, truthy? "from_email" i.config = some v → HasSender i.config v) := by
    refine decidesAt_map (fun _ => rfl) fun v hv => ⟨by simp, ?_⟩
    exact (decides_sender (isJson_of_truthy? hconfig hv) hname hnull).congr
      (and_congr_right' hcalled)
  have webhooks (path : String) : Finds ((Value.obj [("events", .texts emailEvents),
      ("endpoint", .str path), ("verifySignature", .bool true)]).checker Ir.schema l
        (.model .emailWebhooks)) [] := by
    refine fits_obj (Nat.zero_le _) rfl rfl ?_
    simp [Ir.schema, Ir.emailWebhooks]
    simp [Value.find?, fits_texts]
  refine decides_tagged rfl rfl ((decides_present (p := fun key => key = "from" →
    ∀ v, truthy? "from_email" i.config = some v → HasSender i.config v)
    (Nat.zero_le _) rfl rfl ?_).congr ?_)
  · simpa [Ir.schema, Ir.emailOverlay] using ⟨fun path _ => webhooks path, sender⟩
  · simp [Ir.schema, Ir.emailOverlay]

/-- A value that is left out where it is null. -/
def given : Value → Option Value
  | .null => none
  | v => some v

theorem given_of_ne {v : Value} (h : v ≠ .null) : given v = some v := by
  cases v <;> first | rfl | exact absurd rfl h

theorem decidesAt_given {s : Shape Ir.Name} {v : Value} {p : Prop}
    (h : v ≠ .null → Decides (v.checker Ir.schema l s) p) :
    DecidesAt Ir.schema l (.optional s) true (given v) (v ≠ .null → p) := by
  by_cases hnull : v = .null
  · subst hnull
    exact ⟨[], ⟨rfl, rfl⟩, by simp⟩
  · rw [given_of_ne hnull, decidesAt_some, checker_optional hnull]
    simpa [hnull] using h hnull

theorem isJson_pick {item : Value} (h : item.IsJson) (snake camel : String) :
    (pick item snake camel).IsJson := by
  unfold pick
  split
  · exact h.get camel
  · exact h.get snake

theorem decides_bucket {bucket : Value} (hb : bucket.IsJson) :
    Decides ((bucketValue bucket).checker Ir.schema l (.model .storageBucket))
      (IsBucket bucket) := by
  let cache := pick bucket "cache_control" "cacheControl"
  let size := pick bucket "file_size_limit" "fileSizeLimit"
  let types := pick bucket "allowed_mime_types" "allowedMimeTypes"
  have name := decides_isText (l := l) (hb.get "name")
  have cached : Decides ((if cache.truthy then cache else .str "3600").checker Ir.schema l
      (.optional .anyText)) (cache.truthy = true → cache.IsText) := by
    by_cases htruthy : cache.truthy = true
    · rw [if_pos htruthy, checker_optional (ne_null_of_truthy htruthy)]
      simpa [htruthy] using decides_isText (l := l) (isJson_pick hb "cache_control" "cacheControl")
    · rw [if_neg htruthy]
      simp [htruthy]
  have sized : DecidesAt Ir.schema l (.optional (.whole {})) true (given size)
      (size ≠ .null → size.IsWhole) := decidesAt_given fun _ => decides_isWhole size
  have typed : DecidesAt Ir.schema l (.optional (.list 0 .anyText)) true (given types)
      (types ≠ .null → types.IsTexts) :=
    decidesAt_given fun _ => decides_isTexts (isJson_pick hb "allowed_mime_types"
      "allowedMimeTypes")
  obtain ⟨isPublic, hvalue⟩ : ∃ isPublic, bucketValue bucket =
      .ofPresent [("name", some (bucket.get "name")), ("public", some (.bool isPublic)),
        ("cacheControl", some (if cache.truthy then cache else .str "3600")),
        ("fileSizeLimit", given size), ("allowedMimeTypes", given types)] := ⟨_, rfl⟩
  rw [hvalue]
  refine (decides_present (p := fun key => (key = "name" → (bucket.get "name").IsText) ∧
    (key = "cacheControl" → cache.truthy = true → cache.IsText) ∧
    (key = "fileSizeLimit" → size ≠ .null → size.IsWhole) ∧
    (key = "allowedMimeTypes" → types ≠ .null → types.IsTexts)) (Nat.zero_le _) rfl rfl ?_).congr ?_
  · simpa [Ir.schema, Ir.storageBucket] using ⟨name, sized, typed, cached⟩
  · simp [Ir.schema, Ir.storageBucket, isBucket_iff, size, types, cache]

theorem decides_storage (hbuckets : ∀ bucket ∈ i.buckets, bucket.IsJson) :
    Decides ((storage i).value.checker Ir.schema l Ir.overlay)
      (∀ bucket ∈ i.buckets, IsBucket bucket) := by
  have buckets : Decides ((Value.list (i.buckets.map bucketValue)).checker Ir.schema l
      (.list 0 (.model .storageBucket))) (∀ bucket ∈ i.buckets, IsBucket bucket) :=
    (decides_map fun bucket hb => decides_bucket (hbuckets bucket hb)).congr (by simp)
  have images : Finds (imageTransformations.checker Ir.schema l (.model .imageTransformations))
    [] :=
    ⟨_, rfl⟩
  have cdn : Finds ((Value.obj [("enabled", .bool true)]).checker Ir.schema l (.model .cdnConfig))
    [] :=
    ⟨_, rfl⟩
  refine decides_tagged rfl rfl ((decides_present (p := fun key => key = "buckets" →
    ∀ bucket ∈ i.buckets, IsBucket bucket) (Nat.zero_le _) rfl rfl ?_).congr ?_)
  · by_cases hmanaged : i.provider = some "supabase"
    · simpa [Ir.schema, Ir.storageOverlay, hmanaged] using
        ⟨buckets, fits_optional images, fits_optional cdn⟩
    · simpa [Ir.schema, Ir.storageOverlay, hmanaged] using buckets
  · simp [Ir.schema, Ir.storageOverlay]

theorem flat_billingPlan : IsFlat Ir.schema (.model .billingPlan) := by
  refine IsFlat.model rfl rfl ?_
  simpa [Ir.schema, Ir.billingPlan] using
    ⟨flat_text, flat_real, flat_text, flat_oneOf, IsFlat.optional (IsFlat.list flat_text)⟩

theorem decides_billing : Decides ((billing i).value.checker Ir.schema l Ir.overlay)
    ((∀ t, i.provider = some t → t ∈ billingProviders) ∧
      ∀ plan ∈ i.plans, ∃ q, plan.check Ir.schema (.model .billingPlan) = .ok q) := by
  have provider : Decides ((Value.str (i.provider.getD "stripe")).checker Ir.schema l
      (.oneOf billingProviders)) (∀ t, i.provider = some t → t ∈ billingProviders) := by
    refine decides_oneOf.congr ?_
    cases i.provider <;> simp [billingProviders]
  have plans : Decides ((Value.list i.plans).checker Ir.schema l (.list 0 (.model .billingPlan)))
      (∀ plan ∈ i.plans, ∃ q, plan.check Ir.schema (.model .billingPlan) = .ok q) :=
    (decides_list fun plan _ => flat_billingPlan.decides plan l).congr (by simp)
  have webhooks (path : String) : Finds ((Value.obj [("events", .texts billingEvents),
      ("endpoint", .str path)]).checker Ir.schema l (.model .billingWebhooks)) [] := by
    refine fits_obj (Nat.zero_le _) rfl rfl ?_
    simp [Ir.schema, Ir.billingWebhooks]
    simp [Value.find?, fits_texts]
  refine decides_tagged rfl rfl ((decides_present (p := fun key =>
    (key = "provider" → ∀ t, i.provider = some t → t ∈ billingProviders) ∧
    (key = "plans" → ∀ plan ∈ i.plans, ∃ q, plan.check Ir.schema (.model .billingPlan) = .ok q))
    (Nat.zero_le _) rfl rfl ?_).congr ?_)
  · simpa [Ir.schema, Ir.billingOverlay] using ⟨provider, plans, fun path _ => webhooks path⟩
  · simp [Ir.schema, Ir.billingOverlay]

theorem decides_uploads (hconfig : ∀ e ∈ i.config, e.2.IsJson) : Decides
    ((Value.obj [("type", .str "file_upload"),
      ("maxFileSize", orElse "max_file_size" (.int 10485760) i.config),
      ("allowedTypes", orElse "allowed_types" (.texts ["*/*"]) i.config),
      ("destination", orElse "destination" (.str "local") i.config),
      ("virusScanning", .obj [("enabled", .bool false)])]).checker Ir.schema l Ir.overlay)
    (HasUploads i.config) := by
  let size := orElse "max_file_size" (.int 10485760) i.config
  let types := orElse "allowed_types" (.texts ["*/*"]) i.config
  let destination := orElse "destination" (.str "local") i.config
  have htypes : types.IsJson :=
    (orElse_iff (.list (by simp))).mpr fun v hv => isJson_of_truthy? hconfig hv
  have scanning : Finds ((Value.obj [("enabled", .bool false)]).checker Ir.schema l
      (.model .virusScanning)) [] := ⟨_, rfl⟩
  refine decides_tagged rfl rfl ((decides_obj (p := fun key =>
    (key = "maxFileSize" → size.IsWhole) ∧ (key = "allowedTypes" → types.IsTexts) ∧
    (key = "destination" → destination.IsOneOf uploadDestinations)) (Nat.zero_le _) rfl
      rfl ?_).congr ?_)
  · simp [Ir.schema, Ir.fileUploadOverlay]
    simpa [Value.find?] using ⟨decides_isWhole size, decides_isTexts htypes,
      decides_isOneOf uploadDestinations destination, fits_optional scanning⟩
  · have hsize : size.IsWhole ↔ ∀ v, truthy? "max_file_size" i.config = some v → v.IsWhole :=
      orElse_iff ⟨10485760, rfl⟩
    have htexts : types.IsTexts ↔ ∀ v, truthy? "allowed_types" i.config = some v → v.IsTexts :=
      orElse_iff (by simp [Value.IsTexts, Value.texts, Value.IsText])
    have hdestination : destination.IsOneOf uploadDestinations ↔
        ∀ v, truthy? "destination" i.config = some v → v.IsOneOf uploadDestinations :=
      orElse_iff ⟨"local", by simp [uploadDestinations], rfl⟩
    simp [Ir.schema, Ir.fileUploadOverlay, hsize, htexts, hdestination, hasUploads_iff]

end Overlays

end Resolved.Overlay
end SchemaIntents
