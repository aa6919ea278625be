import SchemaIntents.Ir.Schema.Entity

/-!
The models of endpoints, capabilities and components.
-/
namespace SchemaIntents.Ir

/-- The method of an endpoint. -/
def httpMethod : Shape Name :=
  .oneOf ["GET", "POST", "PUT", "PATCH", "DELETE"]

/-- The capabilities that an application may have. -/
def capabilityType : Shape Name :=
  .oneOf ["auth", "email", "storage", "billing", "file_upload", "file_stream", "sse", "websocket"]

/-- Where the data of a response field comes from. -/
def responseSource : Shape Name :=
  .tagged "type" [("relation", .relationSource), ("field", .fieldSource), ("computed",
    .computedSource), ("join", .joinSource)]

/-- What a capability spells out for its generator. -/
def overlay : Shape Name :=
  .tagged "type" [("email", .emailOverlay), ("storage", .storageOverlay), ("auth", .authOverlay),
    ("billing", .billingOverlay), ("file_upload", .fileUploadOverlay)]

def endpointAuth : Model Name where
  title := "EndpointAuth"
  fields := [
    .required "required" "required" .flag,
    .maybe "roles" "roles" (.list 0 .anyText)]

def endpoint : Model Name where
  title := "EndpointIR"
  description := some "A resolved HTTP endpoint."
  fields := [
    .required "method" "method" httpMethod,
    .required "path" "path" (.formed .rooted),
    .maybe "description" "description" .anyText,
    .maybe "entity" "entity" .anyText,
    .deeper (.maybe "response_fields" "responseFields" (.list 0 (.model .field))),
    .deeper (.maybe "request_fields" "requestFields" (.list 0 (.model .field))),
    .maybe "auth" "auth" (.model .endpointAuth)]

def relationSource : Model Name where
  title := "RelationSource"
  fields := [
    .constant "type" "type" "relation",
    .required "relation" "relation" .someText,
    .maybe "field" "field" .anyText]

def fieldSource : Model Name where
  title := "FieldSource"
  fields := [
    .constant "type" "type" "field",
    .required "entity" "entity" .someText,
    .required "field" "field" .someText]

def computedSource : Model Name where
  title := "ComputedSource"
  fields := [
    .constant "type" "type" "computed",
    .required "expression" "expression" .someText]

def joinSource : Model Name where
  title := "JoinSource"
  fields := [
    .constant "type" "type" "join",
    .required "foreign_key" "foreignKey" .someText,
    .required "target_entity" "targetEntity" .someText,
    .required "target_field" "targetField" .someText]

def addFieldUpdate : Model Name where
  title := "AddFieldUpdate"
  description := some "A field added to an endpoint response, with where its data comes from."
  fields := [
    .required "name" "name" .someText,
    .required "source" "source" responseSource]

def endpointUpdates : Model Name where
  title := "EndpointUpdates"
  fields := [
    .maybe "add_fields" "addFields" (.list 0 (.model .addFieldUpdate)),
    .maybe "remove_fields" "removeFields" (.list 0 .someText)]

def capabilityEndpoint : Model Name where
  title := "CapabilityEndpoint"
  description := some "An endpoint (or route group) a capability creates or protects."
  fields := [
    .maybe "method" "method" httpMethod,
    .maybe "path" "path" (.formed .rooted),
    .maybe "group" "group" .anyText,
    .maybe "description" "description" .anyText]

def emailTemplate : Model Name where
  title := "EmailTemplate"
  fields := [
    .required "name" "name" .anyText,
    .required "subject" "subject" .anyText,
    .required "format" "format" (.oneOf ["html", "text", "react"]),
    .required "source" "source" .anyText]

def smtpAuth : Model Name where
  title := "SmtpAuth"
  fields := [
    .required "user" "user" .anyText,
    .required "password" "pass" .anyText]

def smtpConfig : Model Name where
  title := "SmtpConfig"
  fields := [
    .required "host" "host" .anyText,
    .required "port" "port" (.whole {}),
    .maybe "secure" "secure" .flag,
    .maybe "auth" "auth" (.model .smtpAuth)]

def emailWebhooks : Model Name where
  title := "EmailWebhooks"
  fields := [
    .required "events" "events" (.list 0 .anyText),
    .required "endpoint" "endpoint" .anyText,
    .maybe "verify_signature" "verifySignature" .flag]

def emailSender : Model Name where
  title := "EmailSender"
  fields := [
    .required "email" "email" (.formed .email),
    .maybe "name" "name" .anyText]

def emailOverlay : Model Name where
  title := "EmailOverlay"
  fields := [
    .constant "type" "type" "email",
    .maybe "templates" "templates" (.list 0 (.model .emailTemplate)),
    .maybe "smtp" "smtp" (.model .smtpConfig),
    .maybe "webhooks" "webhooks" (.model .emailWebhooks),
    .maybe "from_" "from" (.model .emailSender)]

def storageBucket : Model Name where
  title := "StorageBucket"
  fields := [
    .required "name" "name" .anyText,
    .required "public" "public" .flag,
    .maybe "file_size_limit" "fileSizeLimit" (.whole {}),
    .maybe "allowed_mime_types" "allowedMimeTypes" (.list 0 .anyText),
    .maybe "cache_control" "cacheControl" .anyText]

def imageQuality : Model Name where
  title := "ImageQuality"
  fields := [
    .maybe "default" "default" (.whole { least := some 1, most := some 100 }),
    .maybe "min" "min" (.whole { least := some 1, most := some 100 }),
    .maybe "max" "max" (.whole { least := some 1, most := some 100 })]

def imageTransformations : Model Name where
  title := "ImageTransformations"
  fields := [
    .required "enabled" "enabled" .flag,
    .maybe "formats" "formats" (.list 0 (.oneOf ["webp", "avif", "jpeg", "png"])),
    .maybe "quality" "quality" (.model .imageQuality)]

def cdnConfig : Model Name where
  title := "CdnConfig"
  fields := [
    .required "enabled" "enabled" .flag,
    .maybe "custom_domain" "customDomain" .anyText]

def storageOverlay : Model Name where
  title := "StorageOverlay"
  fields := [
    .constant "type" "type" "storage",
    .required "buckets" "buckets" (.list 0 (.model .storageBucket)),
    .maybe "image_transformations" "imageTransformations" (.model .imageTransformations),
    .maybe "cdn" "cdn" (.model .cdnConfig)]

def sessionCookie : Model Name where
  title := "SessionCookie"
  fields := [
    .required "name" "name" .anyText,
    .maybe "http_only" "httpOnly" .flag,
    .maybe "secure" "secure" .flag,
    .maybe "same_site" "sameSite" (.oneOf ["strict", "lax", "none"])]

def sessionConfig : Model Name where
  title := "SessionConfig"
  fields := [
    .required "duration" "duration" (.whole {}),
    .required "storage" "storage" (.oneOf ["cookie", "localStorage", "database"]),
    .maybe "cookie" "cookie" (.model .sessionCookie)]

def oauthProvider : Model Name where
  title := "OAuthProvider"
  fields := [
    .required "provider" "provider" (.oneOf ["google", "github", "facebook", "twitter", "apple"]),
    .required "client_id" "clientId" .anyText,
    .required "client_secret" "clientSecret" .anyText,
    .maybe "scopes" "scopes" (.list 0 .anyText)]

def passwordPolicy : Model Name where
  title := "PasswordPolicy"
  fields := [
    .maybe "min_length" "minLength" (.whole {}),
    .maybe "require_uppercase" "requireUppercase" .flag,
    .maybe "require_lowercase" "requireLowercase" .flag,
    .maybe "require_numbers" "requireNumbers" .flag,
    .maybe "require_special_chars" "requireSpecialChars" .flag]

def authOverlay : Model Name where
  title := "AuthOverlay"
  fields := [
    .constant "type" "type" "auth",
    .required "strategies" "strategies" (.list 0 (.oneOf ["jwt", "session", "oauth", "magic-link",
      "passwordless"])),
    .maybe "session" "session" (.model .sessionConfig),
    .maybe "oauth_providers" "oauthProviders" (.list 0 (.model .oauthProvider)),
    .maybe "password" "password" (.model .passwordPolicy)]

def billingPlan : Model Name where
  title := "BillingPlan"
  fields := [
    .required "id" "id" .anyText,
    .required "name" "name" .anyText,
    .required "price" "price" .real,
    .required "currency" "currency" (.text 3 (some 3) none),
    .required "interval" "interval" (.oneOf ["month", "year", "week", "day", "one-time"]),
    .maybe "features" "features" (.list 0 .anyText)]

def billingWebhooks : Model Name where
  title := "BillingWebhooks"
  fields := [
    .required "events" "events" (.list 0 .anyText),
    .required "endpoint" "endpoint" .anyText]

def taxConfig : Model Name where
  title := "TaxConfig"
  fields := [
    .required "enabled" "enabled" .flag,
    .maybe "provider" "provider" (.oneOf ["stripe", "taxjar", "avalara"])]

def billingOverlay : Model Name where
  title := "BillingOverlay"
  fields := [
    .constant "type" "type" "billing",
    .required "provider" "provider" (.oneOf ["stripe", "paypal", "square", "braintree"]),
    .required "plans" "plans" (.list 0 (.model .billingPlan)),
    .maybe "webhooks" "webhooks" (.model .billingWebhooks),
    .maybe "tax" "tax" (.model .taxConfig)]

def virusScanning : Model Name where
  title := "VirusScanning"
  fields := [
    .required "enabled" "enabled" .flag,
    .maybe "provider" "provider" .anyText]

def fileUploadOverlay : Model Name where
  title := "FileUploadOverlay"
  fields := [
    .constant "type" "type" "file_upload",
    .required "max_file_size" "maxFileSize" (.whole {}),
    .required "allowed_types" "allowedTypes" (.list 0 .anyText),
    .required "destination" "destination" (.oneOf ["local", "s3", "gcs", "azure", "cloudinary"]),
    .maybe "destination_config" "destinationConfig" .mapping,
    .maybe "resumable" "resumable" .flag,
    .maybe "virus_scanning" "virusScanning" (.model .virusScanning)]

def capability : Model Name where
  title := "CapabilityIR"
  description := some "A resolved capability module (auth, email, storage, ...)."
  fields := [
    .required "type" "type" capabilityType,
    .required "framework" "framework" .someText,
    .maybe "provider" "provider" .anyText,
    .maybe "entity" "entity" .anyText,
    .maybe "config" "config" .mapping,
    .maybe "endpoints" "endpoints" (.list 0 (.model .capabilityEndpoint)),
    .maybe "overlay" "overlay" overlay]

def component : Model Name where
  title := "ComponentIR"
  fields := [
    .required "name" "name" .someText,
    .required "template" "template" (.oneOf ["List", "Form", "Custom"]),
    .maybe "entity" "entity" .anyText,
    .maybe "display_fields" "displayFields" (.list 0 .someText),
    .maybe "route" "route" .anyText]

end SchemaIntents.Ir
