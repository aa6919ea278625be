import SchemaIntents.Cli.Arguments
import SchemaIntents.Document.File
import SchemaIntents.Ir.File
import SchemaIntents.Log.Setup

/-!
The commands: from intents in a file to envelopes in a file, a check of such envelopes, and the
schema that they follow. A command comes to lines of output, a folder and an end.
-/
namespace SchemaIntents.Cli

/-- The two streams that lines go to. -/
inductive Stream where
  | out
  | err
  deriving DecidableEq, Repr

/-- A line that a command shows. -/
structure Line where
  stream : Stream
  text : String
  deriving DecidableEq, Repr

namespace Line

def out (text : String) : Line :=
  ⟨.out, text⟩

/-- A line of the error stream, which shows halves of pairs by their numbers. -/
def err (text : String) : Line :=
  ⟨.err, Text.Quoted.withoutHalves text⟩

/-- A diagnostic as a line: errors go to the error stream. -/
def ofDiagnostic (d : Diagnostic) : Line :=
  let severity := Log.Form.filled true 7 (Text.upper d.severity.name).toList
  ⟨if d.isError then .err else .out,
    "  " ++ String.ofList severity ++ " " ++ d.code ++ " " ++ d.path ++ ": " ++ d.message⟩

end Line

/-- What a command is run in. `time` is the moment `now` as log lines show it. -/
structure Situation where
  now : DateTime
  time : String
  environment : Environment
  folder : Folder
  place : List String

/-- Why a command breaks off without a report of its own. -/
inductive Fault where
  | log (f : Log.Fault)
  | unreadable (f : TextFault)
  | scalar (f : Yaml.ScalarFault)
  | tooDeep (b : Option Json.Bracket)
  | document (f : Document.Fault)
  | path (f : PathFault)
  | save (f : Ir.SaveFault)
  /-- A line has halves of pairs, which the output stream cannot show. -/
  | unencodable (f : Text.Utf8.HalfFault)

def Fault.message : Fault → String
  | .log f => f.message
  | .unreadable f => f.message
  | .scalar f => f.message
  | .tooDeep b => (Document.LoadFault.tooDeep b).message
  | .document f => f.message
  | .path f => f.message
  | .save f => f.message
  | .unencodable f => f.message

/-- How a command ends. -/
inductive Ending where
  | exit (code : Nat)
  | broken (f : Fault)

/-- What a command comes to. -/
structure Outcome where
  lines : List Line
  folder : Folder
  ending : Ending

namespace Outcome

/-- The texts of the lines of a stream. -/
def texts (o : Outcome) (s : Stream) : List String :=
  (o.lines.filter fun l => l.stream = s).map Line.text

/-- The outcome with lines in front. -/
def after (lines : List Line) (o : Outcome) : Outcome :=
  { o with lines := lines ++ o.lines }

end Outcome

/-- What follows when a text has been shown on the output stream, on the folder as it is then. -/
def showing (text : String) (f : Folder) (next : Outcome) : Outcome :=
  if Text.isTorn text then ⟨[], f, .broken (.unencodable (Text.Utf8.halfFault text.toList))⟩
  else Outcome.after [.out text] next

/-- What follows when the log has been set up, on the folder with the log file. -/
def withLog (s : Situation) (quiet : Bool) (next : Log.Setup → Folder → Outcome) : Outcome :=
  let settings := Settings.load [] s.environment s.folder s.place
  match Log.Setup.start settings { quiet := if quiet then some true else none } s.place with
  | .ok (setup, f) => next setup f
  | .error fault =>
    let f := match settings with
      | .ok (_, f) => f
      | .error _ => s.folder
    ⟨[], f, .broken (.log fault)⟩

/-- What a text option says; nothing where it is not given. -/
def optional (v : Option String) : Value :=
  (v.map Value.str).getD .null

def Job.request (j : Job) : Document.Request where
  projectId := optional j.projectId
  intentId := optional j.intentId
  known := if j.entities.isEmpty then .null else .texts j.entities
  model := optional j.model

/-- The path that envelopes are written to: the one asked for, else one named after the file. -/
def Job.target (j : Job) (s : Settings) : String :=
  match j.out with
  | some path => Text.Path.normalize path
  | none => Text.Path.join s.outputDir (Text.Path.stem j.file ++ ".ir.json")

/-- What is told of an envelope. -/
def envelopeLines (ir : Ir.Part) : List Line :=
  .out (ir.kind ++ s!": {ir.diagnostics.length} diagnostic(s)") :: ir.diagnostics.map .ofDiagnostic

/-- What is told of a failed intent. -/
def failureLines (f : Document.Failure) : List Line :=
  .err (s!"Intent #{f.index} (" ++ f.kind.plain ++ ") failed") :: f.diagnostics.map .ofDiagnostic

/-- What is told of a resolved document: the envelopes, then the failures. -/
def report (r : Document.Result) : List Line :=
  r.irs.flatMap envelopeLines ++ r.failures.flatMap failureLines

/-- What is told of a rejected document. -/
def rejectionLines (r : Rejection) : List Line :=
  .err ("Error: " ++ r.text) :: r.diagnostics.map .ofDiagnostic

/-- The last line and the exit code after the envelopes have been written. -/
def closing (r : Document.Result) (path : String) : Line × Nat :=
  if r.ok then (.out (s!"✓ Complete! {r.irs.length} IR envelope(s) written to " ++ path), 0)
  else (.err s!"✗ {r.failures.length} intent(s) failed", 1)

/-- Writes the envelopes of a resolved document and tells of them. -/
def finish (s : Situation) (f : Folder) (path : String) (r : Document.Result) : Outcome :=
  Outcome.after (report r) <| showing ("Writing IR to " ++ path) f <|
    match (Ir.Contents.many r.irs).save f s.place path with
    | (g, .error fault) => ⟨[], g, .broken (.save fault)⟩
    | (g, .ok ()) =>
      let (last, code) := closing r path
      ⟨[last], g, .exit code⟩

/-- Resolves a loaded document, logging as it goes. -/
def resolve (s : Situation) (j : Job) (setup : Log.Setup) (f : Folder) (v : Value) : Outcome :=
  let settings := (Settings.load [] s.environment s.folder s.place).map (·.1)
  let run := Document.resolveValue settings j.request s.now v
  let g := setup.write s.time run.log f
  let lines := (setup.shown s.time run.log).map Line.out
  Outcome.after lines <| match settings, run.result with
    | .ok settings, .ok r => finish s g (j.target settings) r
    | .error fault, .ok _ => ⟨[], g, .broken (.log (.settings fault))⟩
    | _, .error (.malformed r) => ⟨rejectionLines r, g, .exit 1⟩
    | _, .error fault => ⟨[], g, .broken (.document fault)⟩

/-- Turns the intents of a file into envelopes in a file. -/
def transform (s : Situation) (j : Job) : Outcome :=
  withLog s j.quiet fun setup f =>
    showing ("Reading intents from " ++ Text.Path.normalize j.file) f <|
      match Document.load f s.place j.file with
      | .ok v => resolve s j setup f v
      | .error (.rejected path p) => ⟨[.err ("Error: " ++ p.message path)], f, .exit 1⟩
      | .error (.unreadable fault) => ⟨[], f, .broken (.unreadable fault)⟩
      | .error (.scalar fault) => ⟨[], f, .broken (.scalar fault)⟩
      | .error (.tooDeep b) => ⟨[], f, .broken (.tooDeep b)⟩

/-- What is told of envelopes that were accepted. -/
def acceptedLines (c : Ir.Contents) : List Line :=
  c.envelopes.map (fun ir =>
    .out ("  " ++ ir.kind ++ " (irVersion " ++ (Ir.Part.get ir "ir_version").text ++ ")")) ++
  [.out s!"✓ Valid: {c.envelopes.length} IR envelope(s)"]

/-- Checks the envelopes of a file. -/
def validate (s : Situation) (file : String) (quiet : Bool) : Outcome :=
  withLog s quiet fun _ f =>
    showing ("Loading IR from " ++ Text.Path.normalize file) f <|
      match Ir.load f s.place file with
      | .ok c => ⟨acceptedLines c, f, .exit 0⟩
      | .error (.unreadable (.path fault)) => ⟨[], f, .broken (.path fault)⟩
      | .error (.tooDeep b) => ⟨[], f, .broken (.tooDeep (some b))⟩
      | .error (.issues is) =>
        ⟨.err ("✗ " ++ (Ir.LoadFault.issues is).message) :: is.map fun i =>
          .err ("  " ++ i.text), f, .exit 1⟩
      | .error fault => ⟨[.err ("Error: " ++ fault.message)], f, .exit 1⟩

/-- Writes the schema of envelopes. -/
def exportSchema (s : Situation) (path : String) : Outcome :=
  match s.folder.save s.place path Ir.schemaBytes with
  | .error fault => ⟨[], s.folder, .broken (.path fault)⟩
  | .ok f => showing ("✓ Schema written to " ++ Text.Path.normalize path) f ⟨[], f, .exit 0⟩

/-- How the commands are spelled. -/
def usage : List String := [
  "transform FILE [--out PATH] [--project-id ID] [--intent-id ID] [--entity NAME]... [--model NAME]",
  "  [--quiet]                  turn the intents of FILE into IR",
  "validate-ir FILE [--quiet]   check the IR in FILE",
  "export-schema PATH           write the JSON Schema of the IR to PATH"]

/-- Runs a command. -/
def run (s : Situation) : Command → Outcome
  | .transform j => transform s j
  | .validate file quiet => validate s file quiet
  | .exportSchema path => exportSchema s path
  | .help => ⟨usage.map .out, s.folder, .exit 0⟩

/-- Runs the command that arguments spell; arguments that spell none end with exit code 2. -/
def runArguments (s : Situation) (args : List String) : Outcome :=
  match Command.ofArguments args with
  | some c =>
    if c.paths.any Folder.holdsNul then ⟨[], s.folder, .broken (.path .holdsNul)⟩ else run s c
  | none => ⟨usage.map .err, s.folder, .exit 2⟩

end SchemaIntents.Cli
