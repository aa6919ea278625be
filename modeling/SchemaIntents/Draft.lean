import SchemaIntents.Context
import SchemaIntents.Diagnostic
import SchemaIntents.Intent.Part
import SchemaIntents.Ir.Envelope
import SchemaIntents.Log

/-!
Drafts of envelopes. A draft holds what an intent stands for and what was reported on the way. It is
settled by checking it against the schema, and only a draft without errors becomes an envelope.
-/
namespace SchemaIntents

/-- An intent that was refused, with all that was reported about it. -/
structure Rejection where
  message : String
  diagnostics : List Diagnostic
  deriving DecidableEq, Repr

namespace Rejection

/-- The errors among the diagnostics. -/
def errors (r : Rejection) : List Diagnostic :=
  r.diagnostics.filter Diagnostic.isError

/-- One diagnostic as it is listed after the message. -/
def detail (d : Diagnostic) : String :=
  d.code ++ " at " ++ d.path ++ ": " ++ d.message

/-- The message with the errors after it. -/
def text (r : Rejection) : String :=
  match r.errors with
  | [] => r.message
  | errors => r.message ++ " (" ++ String.intercalate "; " (errors.map detail) ++ ")"

end Rejection

/-- What an intent comes to: an envelope or a rejection. -/
abbrev Outcome :=
  Except Rejection Ir.Part

/-- An envelope before it is checked: its model and kind, the fields of its own, and what was
reported. `complaint` is logged in place of the number of errors if the draft has errors. A draft on
whose way a value was misused is never settled, nor is one with a diagnostic that cannot be made. -/
structure Draft where
  model : Ir.Name
  kind : String
  body : List (String × Value)
  diagnostics : List Diagnostic
  notes : List Record := []
  complaint : Option Record := none
  misuse : Option Misuse := none

namespace Draft

/-- The logger that tells how drafts fare. -/
def logger : String :=
  "oiml_ir.transform.builders"

/-- The diagnostics of issues, all with one code and one opening. -/
def reportIssues (code opening : String) (issues : List Issue) : List Diagnostic :=
  issues.map fun i => ⟨code, .error, opening ++ i.cause.message, i.location.path⟩

/-- The number of diagnostics of a severity. -/
def countOf (severity : Severity) (ds : List Diagnostic) : Nat :=
  (ds.filter fun d => d.severity = severity).length

/-- The whole envelope as plain data. -/
def payload (d : Draft) (c : Context) (now : DateTime) : Value :=
  .obj ([("kind", .str d.kind), ("irVersion", .str "1.0.0"), ("provenance", c.provenance now)] ++
    d.body ++ [("diagnostics", .list (d.diagnostics.map Diagnostic.toValue))])

/-- Why a draft is never settled, if it is not. -/
def misuse? (d : Draft) : Option Misuse :=
  d.misuse.or (Diagnostic.firstMisuse? d.diagnostics)

/-- The rejection of a draft with what was reported about it. -/
def reject (d : Draft) (reported : List Diagnostic) : Rejection :=
  ⟨d.kind ++ " transformation failed", reported⟩

/-- The outcome of a draft. A draft with errors is not even checked; what does not fit the schema is
an error too. -/
def settle (d : Draft) (c : Context) (now : DateTime) : Outcome :=
  if d.diagnostics.any Diagnostic.isError then .error (d.reject d.diagnostics)
  else
    match (d.payload c now).check Ir.schema (.model d.model) with
    | .ok ir => .ok ir
    | .error issues =>
      .error (d.reject (d.diagnostics ++ reportIssues "IR099" "IR validation failed: " issues))

/-- What is logged about an outcome. -/
def closing (d : Draft) : Outcome → Record
  | .ok _ => .debug logger (d.kind ++
      s!": built IR with {countOf .warning d.diagnostics} warning(s), " ++
      s!"{countOf .info d.diagnostics} info note(s)")
  | .error r => d.complaint.getD <| .warning logger (d.kind ++
      s!": transformation failed with {countOf .error r.diagnostics} error(s)")

/-- The outcome of a draft with what is logged until then. -/
def finish (d : Draft) (c : Context) (now : DateTime) : Run Outcome :=
  let outcome := d.settle c now
  ⟨d.notes ++ [d.closing outcome], outcome⟩

/-- What is reported about an entity that is looked up: nothing if it may exist. -/
def lookUp (c : Context) (severity : Severity) (label name path : String) : List Diagnostic :=
  if c.mayExist name then []
  else [⟨"IR030", severity, label ++ " '" ++ name ++ "' does not exist", path⟩]

end Draft
end SchemaIntents
