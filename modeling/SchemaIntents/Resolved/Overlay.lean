import SchemaIntents.Diagnostic
import SchemaIntents.Intent.Service
import SchemaIntents.Value
import SchemaIntents.Value.Misuse

/-!
Overlays of capabilities: what a generator would otherwise have to guess is spelled out, and each
guess is noted.
-/
namespace SchemaIntents.Resolved

open Intent (AddCapability)

/-- An overlay and what is noted about it. -/
structure Overlay where
  value : Value
  notes : List Diagnostic

namespace Overlay

def note (code message path : String) : Diagnostic :=
  ⟨code, .info, message, path⟩

def warning (code message path : String) : Diagnostic :=
  ⟨code, .warning, message, path⟩

/-- The entry of a free mapping that counts as something. -/
def truthy? (key : String) (entries : List (String × Value)) : Option Value :=
  (Value.find? key entries).filter Value.truthy

/-- The entry of a free mapping, or a value in its place if it counts as nothing. -/
def orElse (key : String) (fallback : Value) (entries : List (String × Value)) : Value :=
  (truthy? key entries).getD fallback

/-- The entry under the first of two spellings that has a value. -/
def pick (item : Value) (snake camel : String) : Value :=
  match item.get snake with
  | .null => item.get camel
  | v => v

/-- Whether one list of characters occurs in another. -/
def occurs (word : List Char) : List Char → Bool
  | [] => word.isEmpty
  | c :: cs => word.isPrefixOf (c :: cs) || occurs word cs

/-- The path of the first endpoint that looks like a webhook. -/
def webhook? (i : AddCapability) : Option String :=
  (i.endpoints.filterMap (·.path)).find? fun p => occurs "webhook".toList p.toList

def emailEvents : List String :=
  ["email.sent", "email.delivered", "email.bounced", "email.opened", "email.clicked",
    "email.complained", "email.delivery_delayed"]

def billingEvents : List String :=
  ["payment.succeeded", "payment.failed", "subscription.created", "subscription.updated",
    "subscription.canceled"]

def email (i : AddCapability) : Overlay :=
  let sender := truthy? "from_email" i.config
  let webhook := webhook? i
  { value := .ofPresent [("type", some (.str "email")),
      ("from", sender.map fun address =>
        .obj [("email", address), ("name", orElse "from_name" (.str "Your App") i.config)]),
      ("webhooks", webhook.map fun path => .obj [("events", .texts emailEvents),
        ("endpoint", .str path), ("verifySignature", .bool true)])]
    notes :=
      (if sender.isSome then
        [note "CAP001" "Configured default sender from intent config" "$.config.from_email"]
      else
        [note "CAP001" "No default sender configured - using environment defaults" "$.config"]) ++
      (if webhook.isSome then
        [note "CAP002" "Inferred webhook configuration from endpoint" "$.endpoints"]
      else []) ++
      (match i.provider with
        | some p =>
          if p = "resend" then []
          else [note "CAP003" ("Custom provider '" ++ p ++
            "' detected - SMTP configuration may be needed") "$.provider"]
        | none => []) }

/-- A bucket of files. It is public unless it is said outright that it is not. -/
def bucketValue (bucket : Value) : Value :=
  let cache := pick bucket "cache_control" "cacheControl"
  let given (v : Value) : Option Value := match v with
    | .null => none
    | v => some v
  let isPublic := match bucket.get "public" with
    | .bool b => b
    | _ => true
  .ofPresent [("name", some (bucket.get "name")), ("public", some (.bool isPublic)),
    ("cacheControl", some (if cache.truthy then cache else .str "3600")),
    ("fileSizeLimit", given (pick bucket "file_size_limit" "fileSizeLimit")),
    ("allowedMimeTypes", given (pick bucket "allowed_mime_types" "allowedMimeTypes"))]

def imageTransformations : Value :=
  .obj [("enabled", .bool true), ("formats", .texts ["webp", "avif", "jpeg", "png"]),
    ("quality", .obj [("default", .int 80), ("min", .int 50), ("max", .int 100)])]

def storage (i : AddCapability) : Overlay :=
  let managed := i.provider == some "supabase"
  { value := .ofPresent [("type", some (.str "storage")),
      ("buckets", some (.list (i.buckets.map bucketValue))),
      ("imageTransformations", if managed then some imageTransformations else none),
      ("cdn", if managed then some (.obj [("enabled", .bool true)]) else none)]
    notes :=
      (if i.buckets.isEmpty then
        [warning "CAP005" "No buckets configured - you'll need to create them manually" "$.buckets"]
      else [note "CAP004" s!"Configured {i.buckets.length} storage bucket(s)" "$.buckets"]) ++
      (if managed then
        [note "CAP006" "Enabled image transformations for Supabase provider" "$.provider",
          note "CAP007" "Supabase Storage includes built-in CDN" "$.provider"]
      else []) }

def defaultSession : Value :=
  .obj [("duration", .int 86400), ("storage", .str "cookie"),
    ("cookie", .obj [("name", .str "session"), ("httpOnly", .bool true), ("secure", .bool true),
      ("sameSite", .str "lax")])]

def defaultPasswordPolicy : Value :=
  .obj [("minLength", .int 8), ("requireUppercase", .bool true), ("requireLowercase", .bool true),
    ("requireNumbers", .bool true), ("requireSpecialChars", .bool false)]

/-- The members of a value, if it has any: the items of a list, the keys of a mapping, the code
points of a text. -/
def members? : Value → Option (List Value)
  | .list items => some items
  | .set items => some items
  | .pair k v => some [k, v]
  | .obj entries => some (entries.map fun e => .str e.1)
  | .map entries => some (entries.map (·.1))
  | .str s => some ((Text.letters s).map .str)
  | .bytes bs => some (bs.map fun b => .int b.toNat)
  | .loop v => members? v
  | _ => none

/-- The strategies of an authentication and what is noted about them. -/
def strategies (i : AddCapability) : Except Misuse (List Value × Diagnostic) :=
  match truthy? "strategies" i.config with
  | none =>
    .ok ([.str "jwt"], note "CAP008" "Using default JWT authentication strategy" "$.config")
  | some v =>
    match members? v with
    | some ms => do
      let shown ← ms.mapM Value.forDisplay
      return (ms, note "CAP008" ("Configured auth strategies: " ++
        Value.commaSeparated (shown.map Value.plain)) "$.config.strategies")
    | none => .error (.notIterable v.qualifiedKindName)

def auth (i : AddCapability) : Except Misuse Overlay := do
  let (members, found) ← strategies i
  return {
    value := .obj [("type", .str "auth"), ("strategies", .list members),
      ("session", defaultSession), ("password", defaultPasswordPolicy)]
    notes := [found,
      note "CAP009" "Using default session configuration (24h, cookie-based)" "$.config",
      note "CAP010" "Using default password requirements" "$.config"] }

def billing (i : AddCapability) : Overlay :=
  let webhook := webhook? i
  { value := .ofPresent [("type", some (.str "billing")),
      ("provider", some (.str (i.provider.getD "stripe"))), ("plans", some (.list i.plans)),
      ("webhooks", webhook.map fun path =>
        .obj [("events", .texts billingEvents), ("endpoint", .str path)])]
    notes :=
      (if i.plans.isEmpty then [warning "CAP012" "No pricing plans configured" "$.plans"]
      else [note "CAP011" s!"Configured {i.plans.length} pricing plan(s)" "$.plans"]) ++
      (if webhook.isSome then
        [note "CAP013" "Inferred webhook configuration for billing events" "$.endpoints"]
      else []) }

def fileUpload (i : AddCapability) : Except Misuse Overlay := do
  let destination := orElse "destination" (.str "local") i.config
  let shown ← destination.forDisplay
  return {
    value := .obj [("type", .str "file_upload"),
      ("maxFileSize", orElse "max_file_size" (.int 10485760) i.config),
      ("allowedTypes", orElse "allowed_types" (.texts ["*/*"]) i.config),
      ("destination", destination), ("virusScanning", .obj [("enabled", .bool false)])]
    notes := [
      note "CAP014" ("File upload destination: " ++ shown.plain) "$.config.destination",
      note "CAP015" "Virus scanning disabled by default - enable for production" "$.config"] }

/-- The overlay of a capability, if it is one that has an overlay. -/
def ofCapability? (i : AddCapability) : Except Misuse (Option Overlay) :=
  if i.capability = "email" then .ok (some (email i))
  else if i.capability = "storage" then .ok (some (storage i))
  else if i.capability = "auth" then (auth i).map some
  else if i.capability = "billing" then .ok (some (billing i))
  else if i.capability = "file_upload" then (fileUpload i).map some
  else .ok none

end Overlay
end SchemaIntents.Resolved
