import Std.Time.DateTime.Timestamp
import SchemaIntents.Cli

/-!
The program: it gathers what a command may look at, runs the command on it, and carries out what the
command comes to.
-/
namespace SchemaIntents

/-- The string that holds what the system gives, in which there are no halves of pairs. -/
def given (s : String) : String :=
  String.ofList (Text.hold s.toList)

/-- What a string holds, as the system takes it. -/
def taken (s : String) : String :=
  String.ofList (Text.release s.toList)

/-- The names that lead to a place, as a path from the root. -/
def absolute (names : List String) : String :=
  taken ("/" ++ String.intercalate "/" names)

/-- What lies at some names from the root. -/
def entryAt (names : List String) : IO Entry := do
  let path := (← IO.currentDir) / absolute names
  if ← path.isDir then return .folder
  if ← path.pathExists then return .file (← IO.FS.readBinFile path).toList
  return .absent

/-- A folder with what lies at some places from the root. -/
def gather (f : Folder) (places : List (List String)) : IO Folder :=
  places.foldlM (fun f names => return f.withEntry names (← entryAt names)) f

/-- The variables that give settings. -/
def environment : IO Environment := do
  let names := Settings.form.fields.flatMap fun f =>
    ["oiml_" ++ f.name, Text.upper ("oiml_" ++ f.name)]
  names.filterMapM fun name => return (← IO.getEnv name).map fun v => (name, given v)

/-- The paths that arguments may name: each of them, also as the value of an option. -/
def pathsOf (args : List String) : List String :=
  args ++ args.map fun a => String.ofList ((a.toList.dropWhile (· != '=')).drop 1)

/-- What arguments are run in: the moment, the variables, and all that the arguments, the settings
and the files of settings may lead to. -/
def situation (args : List String) : IO Cli.Situation := do
  let place := Text.Path.parts (given (toString (← IO.currentDir)))
  let environment ← environment
  let home := (Text.Path.parts (given (toString (← IO.appPath)))).dropLast
  let envFiles := ([place, home].flatMap Settings.upward).map (· ++ [".env"])
  let f ← gather { home } (envFiles ++ (".env" :: pathsOf args).flatMap (Folder.placesOf place))
  let more := match Settings.load [] environment f place with
    | .ok (s, _) => s.logFile.toList ++ args.map fun a =>
        Text.Path.join s.outputDir (Text.Path.stem a ++ ".ir.json")
    | .error _ => []
  let f ← gather f (more.flatMap (Folder.placesOf place))
  let moment := (← Std.Time.Timestamp.now).toNanosecondsSinceUnixEpoch.val
  let now := DateTime.ofMicroseconds (moment.toNat / 1000)
  return ⟨now, now.logText, environment, f, place⟩

/-- Makes the folders and writes the files that one folder has and another does not. -/
def carryOut (f before : Folder) : IO Unit := do
  for names in f.inner do
    if !before.inner.contains names then IO.FS.createDirAll (absolute names)
  for (names, bytes) in f.changed before do
    IO.FS.writeBinFile (absolute names) ⟨bytes.toArray⟩

/-- Shows a line on its stream. -/
def showLine (l : Cli.Line) : IO Unit :=
  match l.stream with
  | .out => IO.println (taken l.text)
  | .err => IO.eprintln (taken l.text)

/-- The exit code of an ending; one that breaks off says why. -/
def exitCode (e : Cli.Ending) : IO UInt32 := do
  match e with
  | .exit code => return UInt32.ofNat code
  | .broken f =>
    IO.eprintln (taken (Text.Quoted.withoutHalves f.message))
    return 1

end SchemaIntents

open SchemaIntents in
/-- Runs the command that the arguments spell. -/
def main (args : List String) : IO UInt32 := do
  let args := args.map given
  let s ← situation args
  let o := Cli.runArguments s args
  o.lines.forM showLine
  carryOut o.folder s.folder
  exitCode o.ending
