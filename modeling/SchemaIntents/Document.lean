import SchemaIntents.Digest
import SchemaIntents.Json.Canonical
import SchemaIntents.Json.Reader
import SchemaIntents.Resolution

/-!
Documents of intents. Each intent is resolved on its own, in order, with the entities that the
earlier ones leave; what is refused does not stop the rest.
-/
namespace SchemaIntents

/-- A document as it is handed in: plain data, or an instance that was checked before. -/
structure Document where
  whole : Intent.Part
  raw : Value

namespace Document

/-- Reads a document from plain data. -/
def ofValue (v : Value) : Except (List Issue) Document :=
  (Intent.parse .document v).map fun whole => ⟨whole, v⟩

/-- The document of a checked instance. -/
def ofPart (whole : Intent.Part) : Document :=
  ⟨whole, whole.dump Intent.schema⟩

def version (d : Document) : String :=
  Intent.Part.text d.whole "version"

/-- The intents as they were written. -/
def intents (d : Document) : List Value :=
  ((Intent.Part.items? d.whole "intents").getD []).map Instance.value

/-- The model that wrote a document, as far as the document says: the one it names, else the agent
that created it. -/
def authorModel (whole : Intent.Part) : Value :=
  match Intent.Part.part? whole "provenance" with
  | none => .null
  | some p =>
    match Intent.Part.some? p "model" with
    | some m => .str m
    | none =>
      let creator := (Intent.Part.mapping? p "created_by").getD []
      match Value.find? "type" creator with
      | some (.str "agent") => (Value.find? "name" creator).getD .null
      | _ => .null

/-- The identity of a document: a digest of its canonical text. `room` is how many lists and
mappings may stand inside each other where the text is written. -/
def identity (room : Nat) (v : Value) : Except Json.CanonicalFault String :=
  match Json.canonicalFault? room v with
  | some fault => .error fault
  | none =>
    match Text.Utf8.write (Json.canonical v).toList with
    | .ok bytes => .ok ("sha256:" ++ Digest.hex ((Digest.sha256 bytes).take 8))
    | .error fault => .error (.unencodable fault)

/-- An intent of a document that was refused. -/
structure Failure where
  index : Nat
  kind : Value
  diagnostics : List Diagnostic

/-- What a document comes to: envelopes, failures, and beside the envelopes the positions of the
intents that they were made from. -/
structure Result where
  irs : List Ir.Part := []
  failures : List Failure := []
  indices : List Nat := []

namespace Result

/-- Whether no intent was refused. -/
def ok (r : Result) : Bool :=
  r.failures.isEmpty

/-- The envelopes, each with the position that stands at its place. -/
def placed (r : Result) : List (Nat × Ir.Part) :=
  r.indices.zip r.irs

/-- All diagnostics in the order of the intents they belong to. -/
def diagnostics (r : Result) : List Diagnostic :=
  let groups := r.placed.map (fun e => (e.1, e.2.diagnostics)) ++
    r.failures.map fun f => (f.index, f.diagnostics)
  (Json.sortBy (fun i j => decide (i ≤ j)) groups).flatMap (·.2)

/-- The result with one more envelope in front. -/
def withIr (index : Nat) (ir : Ir.Part) (r : Result) : Result :=
  { r with irs := ir :: r.irs, indices := index :: r.indices }

/-- The result with one more failure in front. -/
def withFailure (f : Failure) (r : Result) : Result :=
  { r with failures := f :: r.failures }

@[simp]
theorem placed_empty : placed {} = [] :=
  rfl

@[simp]
theorem placed_withIr (index : Nat) (ir : Ir.Part) (r : Result) :
    (r.withIr index ir).placed = (index, ir) :: r.placed :=
  rfl

@[simp]
theorem placed_withFailure (f : Failure) (r : Result) : (r.withFailure f).placed = r.placed :=
  rfl

end Result

/-- The record of a failed intent. -/
def failureRecord (index : Nat) (kind : Value) (r : Rejection) : Record :=
  .warning Resolution.logger (s!"Intent #{index} (" ++ kind.plain ++ ") failed: " ++ r.text)

/-- Resolves intents that stand in a document from a position on. -/
def resolveFrom (c : Context) (now : DateTime) (index : Nat) :
    List Value → Run (Except Misuse Result)
  | [] => ⟨[], .ok {}⟩
  | intent :: rest =>
    let run := Resolution.of c now (.plain intent)
    let kind := intent.get "kind"
    let failed (r : Rejection) :=
      ((resolveFrom c now (index + 1) rest).map fun later =>
        later.map (Result.withFailure ⟨index, kind, r.diagnostics⟩)).after
          (run.log ++ [(failureRecord index kind r).tagged c.intentId])
    match run.result with
    | .ok ir =>
      ((resolveFrom (c.withKnown (knownAfter c.known ir)) now (index + 1) rest).map fun later =>
        later.map (Result.withIr index ir)).after run.log
    | .error (.rejected r) => failed r
    | .error (.unsupported r) => failed r
    | .error (.misused m) => ⟨run.log, .error m⟩

/-- What a caller may say about a document, and the room that the caller leaves for lists and
mappings inside each other where the document is written. -/
structure Request where
  projectId : Value := .null
  intentId : Value := .null
  known : Value := .null
  model : Value := .null
  room : Nat := Json.depthLimit

/-- Why a document is not resolved. -/
inductive Fault where
  | malformed (r : Rejection)
  | settings (f : Settings.Fault)
  | canonical (f : Json.CanonicalFault)
  | context (f : Context.Fault)
  | misused (m : Misuse)

def Fault.message : Fault → String
  | .malformed r => r.text
  | .settings f => f.message
  | .canonical f => f.message
  | .context f => f.message
  | .misused m => m.message

/-- What is reported about a document that does not fit its model. -/
def malformed (issues : List Issue) : Rejection :=
  let message := "Intent document is malformed"
  ⟨message, Draft.reportIssues "IR010" (message ++ ": ") issues⟩

/-- The first of two values that counts as something, else the second. -/
def firstOf (a b : Value) : Value :=
  if a.truthy then a else b

/-- The context in which the intents of a document are resolved. -/
def context (settings : Except Settings.Fault Settings) (r : Request) (d : Document) :
    Except Fault Context := do
  let s ← match settings with
    | .ok s => pure s
    | .error f => throw (.settings f)
  let id ← if r.intentId.truthy then pure r.intentId else
    match identity r.room d.raw with
    | .ok id => pure (.str id)
    | .error f => throw (.canonical f)
  let model := firstOf r.model
    (firstOf (authorModel d.whole) ((s.model.map Value.str).getD .null))
  let arguments := [("intent_id", id), ("project_id", firstOf r.projectId (.str s.projectId)),
    ("oiml_version", .str d.version), ("model", model), ("existing_entities", r.known)]
  match Context.ofArguments settings arguments with
  | .ok c => return c
  | .error f => throw (.context f)

/-- Resolves the intents of a document in a context. -/
def resolveIn (c : Context) (now : DateTime) (d : Document) :
    Run (Except Misuse Result) :=
  let first := Record.info Resolution.logger s!"Transforming {d.intents.length} intent(s)"
  let run := resolveFrom c now 0 d.intents
  let last := match run.result with
    | .ok r => [(Record.info Resolution.logger (s!"Transformed {r.irs.length} intent(s), " ++
        s!"{r.failures.length} failure(s)")).tagged c.intentId]
    | .error _ => []
  ⟨first.tagged c.intentId :: run.log ++ last, run.result⟩

/-- Resolves a document. -/
def resolve (settings : Except Settings.Fault Settings) (r : Request) (now : DateTime)
    (d : Document) : Run (Except Fault Result) :=
  match context settings r d with
  | .error f => ⟨[], .error f⟩
  | .ok c => (resolveIn c now d).map fun
    | .ok result => .ok result
    | .error m => .error (.misused m)

/-- Resolves a document that is handed in as plain data. -/
def resolveValue (settings : Except Settings.Fault Settings) (r : Request) (now : DateTime)
    (v : Value) : Run (Except Fault Result) :=
  match ofValue v with
  | .error issues => ⟨[], .error (.malformed (malformed issues))⟩
  | .ok d => resolve settings r now d

end Document
end SchemaIntents
