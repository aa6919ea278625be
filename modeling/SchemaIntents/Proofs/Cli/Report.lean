import Mathlib.Data.List.Perm.Basic
import SchemaIntents.Proofs.Cli
import SchemaIntents.Proofs.Document.Accounts
import SchemaIntents.Proofs.Ir.RoundTrip

/-! What a run that resolves a document writes and tells: its envelopes are in the file, and each
diagnostic is shown once, on the stream of its severity. -/
namespace SchemaIntents

/-- The diagnostics of a result are those of its envelopes and of its failures. -/
theorem Document.Result.diagnostics_perm {r : Document.Result}
    (h : r.indices.length = r.irs.length) :
    r.diagnostics.Perm (r.irs.flatMap (·.diagnostics) ++ r.failures.flatMap (·.diagnostics)) := by
  have hirs : r.placed.map (·.2) = r.irs := List.map_snd_zip h.ge
  rw [diagnostics_eq_sortBy]
  refine ((Json.sortBy_perm _).flatMap_right _).trans (.of_eq ?_)
  conv_rhs => rw [← hirs]
  simp only [groups, List.flatMap_append, List.flatMap_map]

namespace Cli

open scoped List

variable {s : Situation} {j : Job}

@[simp] theorem Outcome.lines_after (lines : List Line) (o : Outcome) :
    (o.after lines).lines = lines ++ o.lines := rfl

/-- The lines of a report that are about an envelope or a failed intent as a whole. -/
def headings (r : Document.Result) : List Line :=
  r.irs.map (fun ir => .out (ir.kind ++ s!": {ir.diagnostics.length} diagnostic(s)")) ++
  r.failures.map fun f => .err (s!"Intent #{f.index} (" ++ f.kind.plain ++ ") failed")

/-- A report has its headings, and each diagnostic once. -/
theorem report_perm {r : Document.Result} (h : r.indices.length = r.irs.length) :
    (report r).Perm (headings r ++ r.diagnostics.map .ofDiagnostic) := by
  let irLine (ir : Ir.Part) := Line.out (ir.kind ++ s!": {ir.diagnostics.length} diagnostic(s)")
  let failureLine (f : Document.Failure) :=
    Line.err (s!"Intent #{f.index} (" ++ f.kind.plain ++ ") failed")
  let irReports := r.irs.flatMap fun ir => ir.diagnostics.map Line.ofDiagnostic
  let failureReports := r.failures.flatMap fun f => f.diagnostics.map Line.ofDiagnostic
  have reports : (irReports ++ failureReports).Perm (r.diagnostics.map .ofDiagnostic) := by
    refine .trans (.of_eq ?_) ((r.diagnostics_perm h).map Line.ofDiagnostic).symm
    rw [List.map_append, List.map_flatMap, List.map_flatMap]
  calc report r
    _ ~ (r.irs.map irLine ++ irReports) ++ (r.failures.map failureLine ++ failureReports) :=
      (List.map_append_flatMap_perm _ _ _).symm.append (List.map_append_flatMap_perm _ _ _).symm
    _ = r.irs.map irLine ++ (irReports ++ (r.failures.map failureLine ++ failureReports)) :=
      List.append_assoc _ _ _
    _ ~ r.irs.map irLine ++ (r.failures.map failureLine ++ (irReports ++ failureReports)) :=
      (List.perm_append_comm_assoc _ _ _).append_left _
    _ = headings r ++ (irReports ++ failureReports) := (List.append_assoc _ _ _).symm
    _ ~ headings r ++ r.diagnostics.map .ofDiagnostic := reports.append_left _

/-- The stream for diagnostics of a severity. -/
def streamOf : Severity → Stream
  | .error => .err
  | .warning | .info => .out

theorem stream_ofDiagnostic (d : Diagnostic) :
    (Line.ofDiagnostic d).stream = streamOf d.severity := by
  rw [Line.ofDiagnostic, Diagnostic.isError]
  cases d.severity <;> rfl

/-- The lines of a stream. -/
def onStream (stream : Stream) (lines : List Line) : List Line :=
  lines.filter (·.stream = stream)

theorem onStream_reports (stream : Stream) (ds : List Diagnostic) :
    onStream stream (ds.map .ofDiagnostic) =
      (ds.filter (streamOf ·.severity = stream)).map .ofDiagnostic := by
  rw [onStream, List.filter_map]
  simp only [Function.comp_def, stream_ofDiagnostic]

/-- A run that resolves the document in its file, with all that it comes by on its way. -/
structure ResolvedRun (s : Situation) (j : Job) where
  settings : Settings
  setup : Log.Setup
  value : Value
  result : Document.Result
  /-- The folder with a place for the log file, and with the log file. -/
  (prepared opened : Folder)
  loads : Settings.load [] s.environment s.folder s.place = .ok (settings, prepared)
  starts : Log.Setup.start (.ok (settings, prepared))
    { quiet := if j.quiet then some true else none } s.place = .ok (setup, opened)
  /-- The path of the document can be shown. -/
  source : Text.isTorn (Text.Path.normalize j.file) = false
  reads : Document.load opened s.place j.file = .ok value
  resolves : (Document.resolveValue (.ok settings) j.request s.now value).result = .ok result

namespace ResolvedRun

variable (t : ResolvedRun s j)

/-- The envelopes of the result. -/
def envelopes : List Ir.Part :=
  t.result.irs

/-- The path that they are to be written to. -/
def path : String :=
  j.target t.settings

/-- What is logged while the document is resolved. -/
def log : List Record :=
  (Document.resolveValue (.ok t.settings) j.request s.now t.value).log

/-- The folder with all that is logged. -/
def logged : Folder :=
  t.setup.write s.time t.log t.opened

/-- A file can be written at the path. -/
def Writable : Prop :=
  ∃ bytes g, t.logged.save s.place t.path bytes = .ok g

/-- The lines of the run that are about no diagnostic. -/
def frame : List Line :=
  .out ("Reading intents from " ++ Text.Path.normalize j.file) ::
    (t.setup.shown s.time t.log).map .out ++ headings t.result ++
    (if Text.isTorn t.path then [] else [.out ("Writing IR to " ++ t.path)]) ++
    match (transform s j).ending with
    | .exit _ => [(closing t.result t.path).1]
    | .broken _ => []

theorem transform_eq : transform s j =
    ((finish s t.logged t.path t.result).after ((t.setup.shown s.time t.log).map .out)).after
      [.out ("Reading intents from " ++ Text.Path.normalize j.file)] := by
  have hs := t.starts
  rw [← t.loads] at hs
  rw [transform, withLog_eq hs, showing_eq ((isTorn_reading _).trans t.source)]
  simp only [t.reads, resolve, t.loads, Except.map, t.resolves]
  rfl

theorem lines_finish (f : Folder) (path : String) (r : Document.Result) :
    (finish s f path r).lines =
    report r ++ (if Text.isTorn path then [] else [.out ("Writing IR to " ++ path)]) ++
      match (finish s f path r).ending with
      | .exit _ => [(closing r path).1]
      | .broken _ => [] := by
  unfold finish
  cases hpath : Text.isTorn path with
  | true => simp [showing_eq_broken ((isTorn_writing path).trans hpath)]
  | false =>
    rw [showing_eq ((isTorn_writing path).trans hpath)]
    obtain ⟨g, outcome⟩ := (Ir.Contents.many r.irs).save f s.place path
    cases outcome <;> simp

theorem exists_runs : ∃ c vs, Document.Runs s.now c 0 vs t.result := by
  have h := t.resolves
  rw [Document.resolveValue] at h
  split at h
  · cases h
  · obtain ⟨c, -, hr⟩ := Document.resolve_eq_ok h
    exact ⟨c, _, Document.runs_of_resolveFrom hr⟩

/-- A run shows each diagnostic once, next to its other lines. -/
theorem lines_perm : (transform s j).lines ~ t.frame ++ t.result.diagnostics.map .ofDiagnostic := by
  obtain ⟨c, vs, hruns⟩ := t.exists_runs
  have hending : (transform s j).ending = (finish s t.logged t.path t.result).ending := by
    rw [t.transform_eq]
    rfl
  rw [frame, hending, t.transform_eq, Outcome.lines_after, Outcome.lines_after, lines_finish]
  generalize (match (finish s t.logged t.path t.result).ending with
    | .exit _ => [(closing t.result t.path).1]
    | .broken _ => []) = last
  generalize (if Text.isTorn t.path then [] else [Line.out ("Writing IR to " ++ t.path)]) = writing
  simp only [List.cons_append, List.append_assoc, List.nil_append]
  refine .cons _ (.append_left _ ?_)
  calc report t.result ++ (writing ++ last)
    _ ~ (headings t.result ++ t.result.diagnostics.map .ofDiagnostic) ++ (writing ++ last) :=
      (report_perm (Document.length_indices hruns)).append_right _
    _ = headings t.result ++ (t.result.diagnostics.map .ofDiagnostic ++ (writing ++ last)) :=
      List.append_assoc _ _ _
    _ ~ headings t.result ++ (writing ++ (last ++ t.result.diagnostics.map .ofDiagnostic)) := by
      rw [← List.append_assoc writing]
      exact List.perm_append_comm.append_left _

/-- A run that cannot show its path breaks off before it saves its envelopes. -/
theorem transform_of_isTorn (h : Text.isTorn t.path = true) :
    (∃ fault, (transform s j).ending = .broken (.unencodable fault)) ∧
      (transform s j).folder = t.logged := by
  rw [t.transform_eq, finish, showing_eq_broken ((isTorn_writing _).trans h)]
  exact ⟨⟨_, rfl⟩, rfl⟩

/-- A run that cannot save its envelopes breaks off. -/
theorem transform_of_save_error {g : Folder} {fault : Ir.SaveFault}
    (hpath : Text.isTorn t.path = false)
    (h : (Ir.Contents.many t.envelopes).save t.logged s.place t.path = (g, .error fault)) :
    (transform s j).ending = .broken (.save fault) ∧ (transform s j).folder = g := by
  rw [t.transform_eq, finish, showing_eq ((isTorn_writing _).trans hpath)]
  simp only [envelopes] at h
  simp [h]

theorem transform_of_save {g : Folder} (hpath : Text.isTorn t.path = false)
    (h : (Ir.Contents.many t.envelopes).save t.logged s.place t.path = (g, .ok ())) :
    (transform s j).ending = .exit (if t.result.ok then 0 else 1) ∧ (transform s j).folder = g := by
  rw [t.transform_eq, finish, showing_eq ((isTorn_writing _).trans hpath)]
  simp only [envelopes] at h
  simp only [h, closing, Outcome.ending_after, Outcome.folder_after]
  cases t.result.ok <;> simp

/-- The envelopes stand in the order of their intents. -/
theorem indices_increasing : t.result.indices.Pairwise (· < ·) := by
  obtain ⟨c, vs, hruns⟩ := t.exists_runs
  exact Document.indices_increasing hruns

/-- A run that resolves its document, and can write to its path, tells of the document in full: on
each stream it shows the diagnostics of the severities that belong there, each once, next to lines
about no diagnostic. If its path can be shown, its envelopes, in the order of their intents, are
what the file there holds then, and its exit code says whether an intent failed. It breaks off with
no new file if JSON cannot say an envelope or a number in one is too long, and with an empty file if
a text in one has halves of pairs. -/
theorem transform_reports (t : ResolvedRun s j) (hw : t.Writable) :
    (∀ stream, onStream stream (transform s j).lines ~ onStream stream t.frame ++
      (t.result.diagnostics.filter (streamOf ·.severity = stream)).map .ofDiagnostic) ∧
    t.result.indices.Pairwise (· < ·) ∧
    (Text.isTorn t.path = true →
      (∃ fault, (transform s j).ending = .broken (.unencodable fault)) ∧
        (transform s j).folder = t.logged) ∧
    (Text.isTorn t.path = false →
      (∀ ws, List.Forall₂ (fun x w => Ir.Part.json x = .ok w) t.envelopes ws →
        if (Value.list ws).hasLongNumber then
          (transform s j).ending = .broken (.save .tooManyDigits) ∧
            (transform s j).folder.files = t.logged.files
        else match Ir.fileBytes (.list ws) with
          | .ok bytes => (transform s j).ending = .exit (if t.result.ok then 0 else 1) ∧
            (transform s j).folder.look s.place t.path = .ok (.file bytes)
          | .error fault => (transform s j).ending = .broken (.save (.unencodable fault)) ∧
            (transform s j).folder.look s.place t.path = .ok (.file [])) ∧
      ((∃ x ∈ t.envelopes, ∃ fault, Ir.Part.json x = .error fault) →
        (∃ fault, (transform s j).ending = .broken (.save (.json fault))) ∧
          (transform s j).folder.files = t.logged.files)) := by
  obtain ⟨bytes, g, hg⟩ := hw
  refine ⟨fun stream => ?_, t.indices_increasing, t.transform_of_isTorn,
    fun hpath => ⟨fun ws hws => ?_, ?_⟩⟩
  · rw [← onStream_reports, onStream, onStream, onStream, ← List.filter_append]
    exact t.lines_perm.filter _
  · have hjson := Ir.json_many_eq_ok.mpr ⟨ws, rfl, hws⟩
    split
    case isTrue hlong =>
      obtain ⟨made, hmade, hsave⟩ := Ir.save_eq_tooManyDigits hg hjson hlong
      obtain ⟨hending, hfolder⟩ := t.transform_of_save_error hpath hsave
      exact ⟨hending, hfolder ▸ Folder.make_files hmade⟩
    case isFalse hlong =>
      obtain ⟨k, hk⟩ := Ir.exists_save hg hjson (by simpa using hlong)
      cases hbytes : Ir.fileBytes (.list ws) with
      | ok saved =>
        simp only [hbytes] at hk
        obtain ⟨hending, hfolder⟩ := t.transform_of_save hpath hk.1
        exact ⟨hending, hfolder ▸ hk.2⟩
      | error fault =>
        simp only [hbytes] at hk
        obtain ⟨hending, hfolder⟩ := t.transform_of_save_error hpath hk.1
        exact ⟨hending, hfolder ▸ hk.2⟩
  · rintro ⟨x, hx, fault, hfault⟩
    obtain ⟨found, hfound⟩ := Ir.json_many_eq_error hx hfault
    obtain ⟨hending, hfolder⟩ := t.transform_of_save_error hpath (Ir.save_eq_json_fault hfound)
    exact ⟨⟨found, hending⟩, congrArg Folder.files hfolder⟩

end ResolvedRun

/-- A folder with nothing but a document. -/
def situationOf (document : Value) : Situation where
  now := ⟨⟨2024, 1, 2⟩, 12, 0, 0, 0, none⟩
  time := "2024-01-02 12:00:00"
  environment := []
  folder := { files := [(["intents.json"], (Ir.fileBytes document).toOption.getD [])] }
  place := []

/-- A job on that document, where one entity is known. -/
def documentJob : Job where
  file := "intents.json"
  out := some "envelopes.json"
  projectId := some "project"
  intentId := some "intent"
  entities := ["User"]

/-- A document that is resolved is resolved by a run, which can write its envelopes. -/
theorem exists_resolvedRun {entries : List (String × Value)} {r : Document.Result}
    (hreadable : Json.isReadable Json.depthLimit (.obj entries) = true)
    (hwhole : (Value.obj entries).isWhole = true)
    (hr : (Document.resolveValue (.ok Context.plainSettings) documentJob.request
      (situationOf (.obj entries)).now (.obj entries)).result = .ok r) :
    ∃ t : ResolvedRun (situationOf (.obj entries)) documentJob, t.result = r ∧
      t.path = "envelopes.json" ∧ t.logged = (situationOf (.obj entries)).folder ∧ t.Writable := by
  obtain ⟨setup, hfile, hstarts⟩ := starts_plain (situationOf (.obj entries)).folder
  obtain ⟨bytes, hbytes⟩ :=
    (Ir.exists_fileBytes (Json.isJson_of_read (Json.read_indented hreadable))).mpr hwhole
  have hload : Document.load (situationOf (.obj entries)).folder [] "intents.json" =
      .ok (.obj entries) := by
    refine Document.load_fileBytes (by decide +kernel) hreadable hbytes ?_
    rw [situationOf, hbytes]
    rfl
  have hwrite : ((situationOf (.obj entries)).folder.save [] "envelopes.json" []).toOption.isSome :=
    rfl
  obtain ⟨g, hg⟩ := Option.isSome_iff_exists.mp hwrite
  let t : ResolvedRun (situationOf (.obj entries)) documentJob :=
    ⟨Context.plainSettings, setup, .obj entries, r, _, _, loads_plain rfl,
      hstarts, by decide +kernel, hload, hr⟩
  have hpath : t.path = "envelopes.json" :=
    (by decide +kernel : Text.Path.normalize "envelopes.json" = _)
  have hlogged : t.logged = (situationOf (.obj entries)).folder := by
    rw [ResolvedRun.logged, Log.Setup.write, hfile]
  refine ⟨t, rfl, hpath, hlogged, [], g, ?_⟩
  rw [hlogged, hpath]
  exact eq_ok_of_toOption hg

/-- Of three intents the second one fails, and the envelopes of the others are written. -/
theorem transform_reports_warning : ∃ (t : ResolvedRun (situationOf Document.warning) documentJob)
    (ws : List Value), t.Writable ∧ t.result.indices = [0, 2] ∧
    t.result.diagnostics.map (·.code) = ["IR040", "IR030", "IR040"] ∧
    (transform (situationOf Document.warning) documentJob).ending = .exit 1 ∧
    (∃ bytes, Ir.fileBytes (.list ws) = .ok bytes ∧
      (transform (situationOf Document.warning) documentJob).folder.look [] t.path =
        .ok (.file bytes)) ∧
    onStream .err (transform (situationOf Document.warning) documentJob).lines ~
      onStream .err t.frame ++
        (t.result.diagnostics.filter (streamOf ·.severity = .err)).map .ofDiagnostic := by
  have accepted : ((Document.resolveValue (.ok Context.plainSettings) documentJob.request
      (situationOf Document.warning).now Document.warning).result.toOption.bind fun r =>
        (r.irs.mapM Ir.Part.json).toOption.map fun ws =>
          (r.ok, r.indices, r.diagnostics.map (·.code), (Value.list ws).hasLongNumber,
            (Value.list ws).isWhole, Json.isReadable Json.depthLimit (.list ws))) =
      some (false, [0, 2], ["IR040", "IR030", "IR040"], false, true, true) := by
    decide +kernel
  obtain ⟨r, hr, hws⟩ := Option.bind_eq_some_iff.mp accepted
  obtain ⟨ws, hws, hchecks⟩ := Option.map_eq_some_iff.mp hws
  simp only [Prod.mk.injEq] at hchecks
  obtain ⟨hok, hindices, hcodes, hlong, hwhole, hreadable⟩ := hchecks
  obtain ⟨bytes, hbytes⟩ :=
    (Ir.exists_fileBytes (Json.isJson_of_read (Json.read_indented hreadable))).mpr hwhole
  obtain ⟨t, rfl, hpath, -, hw⟩ :=
    exists_resolvedRun (by decide +kernel) (by decide +kernel) (eq_ok_of_toOption hr)
  obtain ⟨hstreams, -, -, hsaved⟩ := t.transform_reports hw
  have hsaved := (hsaved (hpath ▸ by decide)).1 ws (Ir.mapM_eq_ok.mp (eq_ok_of_toOption hws))
  simp only [hlong, hbytes, hok] at hsaved
  exact ⟨t, ws, hw, hindices, hcodes, hsaved.1, ⟨bytes, hbytes, hsaved.2⟩, hstreams .err⟩

/-- A document with an intent whose configuration is deeply nested. -/
def streaming : List (String × Value) := [
  ("version", .str "0.1.0"),
  ("intents", .list [.obj [
    ("kind", .str "add_capability"), ("scope", .str "capability"), ("capability", .str "sse"),
    ("framework", .str "express"), ("config", .obj [("events", Ir.nested 300)])]])]

/-- A run that could write to its path, and breaks off though no intent failed. -/
theorem transform_streaming : ∃ t : ResolvedRun (situationOf (.obj streaming)) documentJob,
    t.Writable ∧ t.result.failures = [] ∧ t.result.indices = [0] ∧
    (transform (situationOf (.obj streaming)) documentJob).ending =
      .broken (.save (.json .tooDeep)) ∧
    (transform (situationOf (.obj streaming)) documentJob).folder.files =
      (situationOf (.obj streaming)).folder.files := by
  have accepted : ((Document.resolveValue (.ok Context.plainSettings) documentJob.request
      (situationOf (.obj streaming)).now (.obj streaming)).result.toOption.map fun r =>
        (r.failures.isEmpty, r.indices, match (Ir.Contents.many r.irs).json with
          | .ok _ => none
          | .error fault => some fault)) = some (true, [0], some .tooDeep) := by
    decide +kernel
  obtain ⟨r, hr, hchecks⟩ := Option.map_eq_some_iff.mp accepted
  simp only [Prod.mk.injEq] at hchecks
  obtain ⟨hfailures, hindices, hfault⟩ := hchecks
  have hjson : (Ir.Contents.many r.irs).json = .error .tooDeep := by
    split at hfault
    · cases hfault
    · rename_i found
      rw [found, Option.some.inj hfault]
  obtain ⟨t, rfl, hpath, hlogged, hw⟩ :=
    exists_resolvedRun (by decide +kernel) (by decide +kernel) (eq_ok_of_toOption hr)
  obtain ⟨hending, hfolder⟩ :=
    t.transform_of_save_error (hpath ▸ by decide) (Ir.save_eq_json_fault hjson)
  rw [hlogged] at hfolder
  exact ⟨t, hw, List.isEmpty_iff.mp hfailures, hindices, hending, congrArg Folder.files hfolder⟩

end Cli
end SchemaIntents
