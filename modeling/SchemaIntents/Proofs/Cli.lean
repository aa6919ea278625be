import SchemaIntents.Cli
import SchemaIntents.Proofs.Document.File
import SchemaIntents.Proofs.Log.Setup
import SchemaIntents.Proofs.Resolution.Sayable

/-! The commands work together: the envelopes that one of them writes to a file are checked by
another one. -/
namespace SchemaIntents.Cli

variable {s : Situation} {j : Job} {setup : Log.Setup} {f : Folder} {quiet : Bool}
  {next : Log.Setup → Folder → Outcome}

@[simp] theorem Outcome.folder_after (lines : List Line) (o : Outcome) :
    (o.after lines).folder = o.folder := rfl

@[simp] theorem Outcome.ending_after (lines : List Line) (o : Outcome) :
    (o.after lines).ending = o.ending := rfl

theorem isTorn_reading (path : String) :
    Text.isTorn ("Reading intents from " ++ path) = Text.isTorn path := by
  have constant : Text.isTorn "Reading intents from " = false := by decide
  rw [Text.isTorn_append, constant, Bool.false_or]

theorem isTorn_writing (path : String) :
    Text.isTorn ("Writing IR to " ++ path) = Text.isTorn path := by
  have constant : Text.isTorn "Writing IR to " = false := by decide
  rw [Text.isTorn_append, constant, Bool.false_or]

theorem withLog_eq (hs : Log.Setup.start (Settings.load [] s.environment s.folder s.place)
    { quiet := if quiet then some true else none } s.place = .ok (setup, f)) :
    withLog s quiet next = next setup f := by
  simp only [withLog, hs]

theorem withLog_eq_broken {fault : Log.Fault}
    (hs : Log.Setup.start (Settings.load [] s.environment s.folder s.place)
      { quiet := if quiet then some true else none } s.place = .error fault) :
    (withLog s quiet next).ending = .broken (.log fault) := by
  simp only [withLog, hs]

theorem showing_eq {text : String} {o : Outcome} (h : Text.isTorn text = false) :
    showing text f o = o.after [.out text] := by
  rw [showing, h]
  rfl

theorem showing_eq_broken {text : String} {o : Outcome} (h : Text.isTorn text = true) :
    showing text f o = ⟨[], f, .broken (.unencodable (Text.Utf8.halfFault text.toList))⟩ :=
  if_pos h

/-- The shortest form of a path has no halves of pairs that the path does not have. -/
theorem isTorn_normalize {path : String} (h : Text.isTorn path = false) :
    Text.isTorn (Text.Path.normalize path) = false := by
  have mem_split (cs : List Char) : ∀ p ∈ Text.Path.split cs, ∀ c ∈ p, c ∈ cs := by
    fun_induction Text.Path.split cs with
    | case1 => simp
    | case2 rest ih =>
      rw [List.forall_mem_cons]
      exact ⟨by simp, fun p hp c hc => List.mem_cons_of_mem _ (ih p hp c hc)⟩
    | case3 c rest _ hnone => simp
    | case4 c rest _ p ps hsome ih =>
      rw [hsome, List.forall_mem_cons] at ih
      rw [List.forall_mem_cons, List.forall_mem_cons]
      exact ⟨⟨List.mem_cons_self, fun d hd => List.mem_cons_of_mem _ (ih.1 d hd)⟩,
        fun q hq d hd => List.mem_cons_of_mem _ (ih.2 q hq d hd)⟩
  have hparts : ∀ p ∈ Text.Path.parts path, Text.isTorn p = false := by
    intro p hp
    obtain ⟨cs, hcs, rfl⟩ := List.mem_map.mp (List.mem_of_mem_filter hp)
    rw [Text.isTorn_ofList, List.contains_eq_mem, decide_eq_false_iff_not]
    intro hmark
    simp [Text.isTorn, mem_split _ _ hcs _ hmark] at h
  have hroot : Text.isTorn (Text.Path.root path) = false := by
    unfold Text.Path.root
    split <;> decide
  have hbody : Text.isTorn ("/".intercalate (Text.Path.parts path)) = false :=
    Text.isTorn_intercalate (by decide) hparts
  have hwhole : Text.isTorn (Text.Path.root path ++ "/".intercalate (Text.Path.parts path)) =
    false := by
    rw [Text.isTorn_append, hroot, hbody, Bool.or_false]
  change Text.isTorn (if Text.Path.root path ++ "/".intercalate (Text.Path.parts path) = "" then "."
    else Text.Path.root path ++ "/".intercalate (Text.Path.parts path)) = false
  split
  · decide
  · exact hwhole

/-- A run that writes envelopes, with all that it comes by on its way. -/
structure Written (s : Situation) (j : Job) where
  settings : Settings
  setup : Log.Setup
  value : Value
  result : Document.Result
  /-- The folder with a place for the log file, with the log file, and with the envelopes. -/
  (prepared opened folder : Folder)
  loads : Settings.load [] s.environment s.folder s.place = .ok (settings, prepared)
  starts : Log.Setup.start (.ok (settings, prepared))
    { quiet := if j.quiet then some true else none } s.place = .ok (setup, opened)
  /-- The path of the document can be shown. -/
  source : Text.isTorn (Text.Path.normalize j.file) = false
  reads : Document.load opened s.place j.file = .ok value
  resolves : (Document.resolveValue (.ok settings) j.request s.now value).result = .ok result
  /-- The path that envelopes are written to can be shown. -/
  target : Text.isTorn (j.target settings) = false
  saves : (Ir.Contents.many result.irs).save
    (setup.write s.time (Document.resolveValue (.ok settings) j.request s.now value).log opened)
    s.place (j.target settings) = (folder, .ok ())

namespace Written

/-- The envelopes that are written. -/
def envelopes (w : Written s j) : List Ir.Part :=
  w.result.irs

/-- The path that they are written to. -/
def path (w : Written s j) : String :=
  j.target w.settings

/-- The folder is left with the envelopes, and the exit code tells whether all intents came to
one. -/
theorem transform_eq (w : Written s j) : (transform s j).folder = w.folder ∧
    (transform s j).ending = .exit (if w.result.ok then 0 else 1) := by
  have hs := w.starts
  rw [← w.loads] at hs
  rw [transform, withLog_eq hs, showing_eq ((isTorn_reading _).trans w.source)]
  simp only [Outcome.folder_after, Outcome.ending_after, w.reads, resolve, w.loads, Except.map,
    w.resolves, finish, showing_eq ((isTorn_writing _).trans w.target), w.saves, closing]
  cases w.result.ok <;> simp

/-- A run only adds to a folder. -/
theorem grows (w : Written s j) : Folder.Grows w.opened w.folder :=
  (Log.Setup.write_grows w.starts s.time _ (.refl _)).trans (w.saves ▸ Ir.save_grows _ _ _ _)

end Written

/-- A run that writes no envelopes breaks off, unless there is no document in its file. -/
theorem written_or (s : Situation) (j : Job) : Nonempty (Written s j) ∨
    (∃ fault, (transform s j).ending = .broken fault) ∨
    (transform s j).ending = .exit 1 ∧ ∃ setup f,
      Log.Setup.start (Settings.load [] s.environment s.folder s.place)
        { quiet := if j.quiet then some true else none } s.place = .ok (setup, f) ∧
      ((∃ path p, Document.load f s.place j.file = .error (.rejected path p)) ∨
        ∃ v r, Document.load f s.place j.file = .ok v ∧
          (Document.resolveValue ((Settings.load [] s.environment s.folder s.place).map (·.1))
            j.request s.now v).result = .error (.malformed r)) := by
  unfold transform
  cases hs : Log.Setup.start (Settings.load [] s.environment s.folder s.place)
      { quiet := if j.quiet then some true else none } s.place with
  | error fault => exact .inr (.inl ⟨_, withLog_eq_broken hs⟩)
  | ok started =>
    obtain ⟨setup, f⟩ := started
    rw [withLog_eq hs]
    cases hsource : Text.isTorn (Text.Path.normalize j.file) with
    | true => exact .inr (.inl ⟨_, by rw [showing_eq_broken ((isTorn_reading _).trans hsource)]⟩)
    | false =>
    rw [showing_eq ((isTorn_reading _).trans hsource), Outcome.ending_after]
    cases hd : Document.load f s.place j.file with
    | error fault =>
      cases fault with
      | rejected path p => exact .inr (.inr ⟨rfl, setup, f, rfl, .inl ⟨path, p, hd⟩⟩)
      | _ => exact .inr (.inl ⟨_, rfl⟩)
    | ok v =>
      cases hl : Settings.load [] s.environment s.folder s.place with
      | error fault =>
        rw [hl] at hs
        cases hs
      | ok loaded =>
        obtain ⟨settings, prepared⟩ := loaded
        rw [hl] at hs
        simp only [resolve, hl, Except.map, Outcome.ending_after]
        cases hr : (Document.resolveValue (.ok settings) j.request s.now v).result with
        | error fault =>
          cases fault with
          | malformed r => exact .inr (.inr ⟨rfl, setup, f, rfl, .inr ⟨v, r, hd, hr⟩⟩)
          | _ => exact .inr (.inl ⟨_, rfl⟩)
        | ok r =>
          simp only [finish, Outcome.ending_after]
          cases htarget : Text.isTorn (j.target settings) with
          | true =>
            exact .inr (.inl ⟨_, by rw [showing_eq_broken ((isTorn_writing _).trans htarget)]⟩)
          | false =>
          rw [showing_eq ((isTorn_writing _).trans htarget)]
          cases hg : (Ir.Contents.many r.irs).save
              (setup.write s.time (Document.resolveValue (.ok settings) j.request s.now v).log f)
              s.place (j.target settings) with
          | mk g outcome =>
            cases outcome with
            | error fault => exact .inr (.inl ⟨_, rfl⟩)
            | ok => exact .inl ⟨⟨settings, setup, v, r, prepared, f, g, hl, hs, hsource, hd,
                hr, htarget, hg⟩⟩

/-- What is told of accepted envelopes does not depend on which of their fields were given, nor on
the keys in them. -/
theorem acceptedLines_eq {xs ys : List Ir.Part}
    (h : ys.map Instance.bare = (xs.map Ir.Part.mended).map Instance.bare) :
    acceptedLines (.many ys) = acceptedLines (.many xs) := by
  let line (ir : Ir.Part) : Line :=
    .out ("  " ++ ir.kind ++ " (irVersion " ++ (Ir.Part.get ir "ir_version").text ++ ")")
  have line_bare (ir : Ir.Part) : line ir.bare = line ir := by
    simp only [line, Ir.Part.kind, Ir.Part.get, Instance.field_bare, Instance.text_bare]
  have line_mended (ir : Ir.Part) : line ir.mended = line ir := by
    obtain ⟨s₁, h₁⟩ := Instance.field_mendedAs Ir.schema Ir.envelope ir "kind"
    obtain ⟨s₂, h₂⟩ := Instance.field_mendedAs Ir.schema Ir.envelope ir "ir_version"
    simp only [line, Ir.Part.kind, Ir.Part.get, Ir.Part.mended, h₁, h₂, Instance.text_mendedAs]
  have lines (zs : List Ir.Part) : zs.map line = (zs.map Instance.bare).map line := by
    simp only [List.map_map, Function.comp_def, line_bare]
  have same : ys.map line = xs.map line := by
    rw [lines, h, ← lines, List.map_map]
    simp only [Function.comp_def, line_mended]
  have count : ys.length = xs.length := by simpa using congrArg List.length h
  exact congrArg₂ (fun ls n => ls ++ [Line.out s!"✓ Valid: {n} IR envelope(s)"]) same count

/-- The lines about values that are missing in envelopes. -/
def missingLines (places : List Location) : List Line :=
  .err ("✗ " ++ s!"Invalid IR: {places.length} issue(s)") ::
    places.map fun place => .err ("  " ++ (Issue.mk .missing place).text)

theorem missingLines_eq (places : List Location) :
    (.err ("✗ " ++ (Ir.LoadFault.issues (places.map (⟨.missing, ·⟩))).message) ::
      (places.map (⟨.missing, ·⟩)).map fun i : Issue => .err ("  " ++ i.text)) =
        missingLines places := by
  have count : (Ir.LoadFault.issues (places.map (⟨.missing, ·⟩))).message =
      s!"Invalid IR: {places.length} issue(s)" := by
    have length : (places.map fun place => Issue.mk .missing place).length = places.length :=
      List.length_map _
    rw [← length]
    rfl
  rw [count, List.map_map]
  rfl

namespace Written

variable {w : Written s j}

/-- JSON can say the envelopes of a document that it can say. -/
theorem sayable_envelopes (hv : w.value.Sayable) : ∀ x ∈ w.envelopes, x.Sayable :=
  Document.sayable_irs hv w.resolves

/-- With the same variables a log is set up once more, and no file changes. -/
theorem start_again (w : Written s j)
    (henv : Settings.environmentWith s.environment w.folder s.place =
      Settings.environmentWith s.environment s.folder s.place) (quiet : Bool) :
    ∃ setup k, Log.Setup.start (Settings.load [] s.environment w.folder s.place)
        { quiet := if quiet then some true else none } s.place = .ok (setup, k) ∧
      ∀ names, k.entry names = w.folder.entry names := by
  have grows := (Log.Setup.start_grows w.starts).trans w.grows
  rw [Settings.load_again w.loads grows henv]
  exact Log.Setup.start_again w.starts w.grows _

end Written

/-- Envelopes that come from finite JSON, and were written to a file, are accepted there by a later
run with the same variables, in full number, just when no literal seed generator among them is null.
Else the values of those that are null are reported as missing. It is taken for granted that the
text of the file is read as the JSON value that was written. -/
theorem validate_written (w : Written s j) (hv : w.value.IsJson) (hf : w.value.isFinite = true)
    (hread : ∀ v, (Ir.Contents.many w.envelopes).json = .ok v → Json.read (Json.indented v) = .ok v)
    (henv : Settings.environmentWith s.environment (transform s j).folder s.place =
      Settings.environmentWith s.environment s.folder s.place)
    (now : DateTime) (time : String) (quiet : Bool) :
    let later := validate { s with now, time, folder := (transform s j).folder } w.path quiet
    let first := Line.out ("Loading IR from " ++ Text.Path.normalize w.path)
    ((∀ x ∈ w.envelopes, x.nullLiterals = []) →
      later.ending = .exit 0 ∧ later.lines = first :: acceptedLines (.many w.envelopes)) ∧
    ((∃ x ∈ w.envelopes, x.nullLiterals ≠ []) →
      later.ending = .exit 1 ∧ later.lines = first ::
        missingLines (Ir.missingLiterals w.envelopes)) := by
  rw [w.transform_eq.1] at henv ⊢
  obtain ⟨setup, k, hstart, hsame⟩ := w.start_again henv quiet
  obtain ⟨ys, hys, hload⟩ := Ir.load_save (Written.sayable_envelopes ⟨hv, hf⟩) w.saves hread
  have hk : Ir.load k s.place w.path = Ir.load w.folder s.place w.path := by
    rw [Ir.load, Ir.load, Folder.text?_congr hsame]
  rw [← Written.path, ← hk] at hload
  intro later first
  have hlater : later = _ := withLog_eq (s := { s with now, time, folder := w.folder }) hstart
  have hshown : Text.isTorn ("Loading IR from " ++ Text.Path.normalize w.path) = false := by
    have constant : Text.isTorn "Loading IR from " = false := by decide
    rw [Text.isTorn_append, constant, Bool.false_or]
    exact isTorn_normalize w.target
  simp only [hload, showing_eq hshown] at hlater
  constructor
  · intro hnone
    simp only [Ir.missingLiterals_eq_nil.mpr hnone, if_true] at hlater
    rw [hlater, ← acceptedLines_eq hys]
    exact ⟨rfl, rfl⟩
  · intro hsome
    have hne : Ir.missingLiterals w.envelopes ≠ [] := by
      rw [Ne, Ir.missingLiterals_eq_nil]
      simpa using hsome
    simp only [hne, if_false] at hlater
    rw [hlater]
    exact ⟨rfl, congrArg (first :: ·) (missingLines_eq _)⟩

/-- A document with an entity whose seed has null as a literal. -/
def seeding : List (String × Value) := [
  ("version", .str "0.1.0"),
  ("intents", .list [.obj [
    ("kind", .str "add_entity"), ("scope", .str "data"), ("entity", .str "User"),
    ("fields", .list [.obj [("name", .str "id"), ("type", .str "integer")]]),
    ("seed", .obj [
      ("generators", .obj [("id", .obj [("kind", .str "Literal"), ("value", .null)])])])]])]

/-- A folder with nothing but the document. -/
def seedingSituation : Situation where
  now := ⟨⟨2024, 1, 2⟩, 12, 0, 0, 0, none⟩
  time := "2024-01-02 12:00:00"
  environment := []
  folder := { files := [(["intents.json"], (Ir.fileBytes (.obj seeding)).toOption.getD [])] }
  place := []

def seedingJob : Job :=
  { file := "intents.json", out := some "envelopes.json", intentId := some "intent" }

theorem loads_plain {f : Folder} (h : Settings.environmentWith [] f [] = .ok []) :
    Settings.load [] [] f [] = .ok (Context.plainSettings, f) := by
  have hsources : Settings.ofSources [] [] = .ok Context.plainSettings :=
    eq_ok_of_toOption (by decide +kernel)
  exact Settings.load_eq_ok.mpr ⟨[], h, hsources, rfl⟩

/-- Without settings the log has no file. -/
theorem starts_plain (f : Folder) : ∃ setup : Log.Setup, setup.file = none ∧
    Log.Setup.start (.ok (Context.plainSettings, f)) { quiet := none } [] = .ok (setup, f) := by
  have hupper : Text.upper "INFO" = "INFO" := by decide +kernel
  have hlevel : Log.Setup.levelOf (Text.upper "INFO") = .ok (.inl 20) := by
    rw [hupper]
    rfl
  have hformat : (Log.Setup.formatOf none (.inl 20)).toOption.isSome = true := by decide +kernel
  obtain ⟨format, hformat⟩ := Option.isSome_iff_exists.mp hformat
  exact ⟨⟨20, 20, none, format⟩, rfl, Log.Setup.start_eq_ok.mpr ⟨20, format, none, hlevel,
    eq_ok_of_toOption hformat, rfl, rfl, rfl⟩⟩

theorem loads_seeding : Settings.load [] [] seedingSituation.folder [] =
    .ok (Context.plainSettings, seedingSituation.folder) :=
  loads_plain rfl

theorem starts_seeding : ∃ setup : Log.Setup, setup.file = none ∧
    Log.Setup.start (.ok (Context.plainSettings, seedingSituation.folder)) { quiet := none } [] =
      .ok (setup, seedingSituation.folder) :=
  starts_plain _

theorem reads_seeding : Document.load seedingSituation.folder [] "intents.json" =
    .ok (.obj seeding) := by
  have hread : Json.isReadable Json.depthLimit (.obj seeding) = true := by decide +kernel
  have whole : (Value.obj seeding).isWhole = true := by decide +kernel
  obtain ⟨bytes, hbytes⟩ := (Ir.exists_fileBytes
    (Json.isJson_of_read (Json.read_indented hread))).mpr whole
  refine Document.load_fileBytes (by decide +kernel) hread hbytes ?_
  rw [seedingSituation, hbytes]
  rfl

/-- Another file can be written next to the document, and is none with variables. -/
theorem saves_seeding (bytes : List UInt8) : ∃ g,
    seedingSituation.folder.save [] "envelopes.json" bytes = .ok g ∧
      Settings.environmentWith [] g [] = .ok [] :=
  ⟨_, rfl, rfl⟩

/-- The envelope of an entity with null as a literal is written, and is not accepted then. -/
theorem validate_written_seeding : ∃ w : Written seedingSituation seedingJob,
    (transform seedingSituation seedingJob).ending = .exit 0 ∧
    (validate { seedingSituation with folder := (transform seedingSituation seedingJob).folder }
      w.path false).ending = .exit 1 := by
  obtain ⟨setup, hfile, hstarts⟩ := starts_seeding
  have accepted : ((Document.resolveValue (.ok Context.plainSettings) seedingJob.request
      seedingSituation.now (.obj seeding)).result.toOption.bind fun r =>
        (Ir.Contents.many r.irs).json.toOption.map fun v =>
          (r.ok, r.irs.any fun ir => ir.nullLiterals != [], v.hasLongNumber, v.isWhole,
            Json.isReadable Json.depthLimit v)) = some (true, true, false, true, true) := by
    decide +kernel
  obtain ⟨r, hr, hwritten⟩ := Option.bind_eq_some_iff.mp accepted
  obtain ⟨written, hjson, hchecks⟩ := Option.map_eq_some_iff.mp hwritten
  simp only [Prod.mk.injEq, List.any_eq_true, bne_iff_ne] at hchecks
  obtain ⟨hok, ⟨e, he, hnull⟩, hlong, hwhole, hreadable⟩ := hchecks
  have hjson := eq_ok_of_toOption hjson
  obtain ⟨bytes, hbytes⟩ := (Ir.exists_fileBytes
    (Json.isJson_of_read (Json.read_indented hreadable))).mpr hwhole
  obtain ⟨g, hsave, henv⟩ := saves_seeding bytes
  let w : Written seedingSituation seedingJob := {
    settings := Context.plainSettings
    setup := setup
    value := .obj seeding
    result := r
    prepared := seedingSituation.folder
    opened := seedingSituation.folder
    folder := g
    loads := loads_seeding
    starts := hstarts
    source := by decide +kernel
    reads := reads_seeding
    resolves := eq_ok_of_toOption hr
    target := by decide +kernel
    saves := by
      rw [Log.Setup.write, hfile]
      exact Ir.save_eq_ok hsave hjson hlong hbytes }
  have hread : ∀ v, (Ir.Contents.many w.envelopes).json = .ok v →
      Json.read (Json.indented v) = .ok v := by
    intro v hv
    obtain rfl := Except.ok.inj (hjson.symm.trans hv)
    exact Json.read_indented hreadable
  have hsame : Settings.environmentWith [] (transform seedingSituation seedingJob).folder [] =
      Settings.environmentWith [] seedingSituation.folder [] := by
    rw [w.transform_eq.1]
    exact henv
  refine ⟨w, ?_, ?_⟩
  · rw [w.transform_eq.2, if_pos hok]
  · have hfinite : (Value.obj seeding).isFinite = true := by decide +kernel
    exact ((validate_written w (Document.isJson_of_load (by decide +kernel) w.reads)
      hfinite hread hsame seedingSituation.now seedingSituation.time false).2 ⟨e, he, hnull⟩).1

end SchemaIntents.Cli
