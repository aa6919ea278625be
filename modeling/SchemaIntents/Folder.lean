import SchemaIntents.Text.Path
import SchemaIntents.Text.Quoted
import SchemaIntents.Text.Utf8

/-!
A folder of files as a value: what lies at a path, and the folder after a file is written.
-/
namespace SchemaIntents

/-- Files with their bytes and the folders that lie inside, each at the names that lead to it.
`home` is the folder that the program belongs to, if it lies inside. -/
structure Folder where
  files : List (List String × List UInt8) := []
  inner : List (List String) := []
  home : Option (List String) := none

/-- What lies at a path. -/
inductive Entry where
  | absent
  | folder
  | file (bytes : List UInt8)

/-- Why a path cannot be used. -/
inductive PathFault where
  | isFolder (path : String)
  | exists (path : String)
  | notFolder (path : String)
  | absent (path : String)
  /-- A name in it, or the whole of it, is too long. -/
  | tooLong (path : String)
  /-- It holds the character that ends a path. -/
  | holdsNul
  deriving DecidableEq, Repr

def PathFault.message : PathFault → String
  | .isFolder path => "[Errno 21] Is a directory: " ++ Text.Quoted.encode path
  | .exists path => "[Errno 17] File exists: " ++ Text.Quoted.encode path
  | .notFolder path => "[Errno 20] Not a directory: " ++ Text.Quoted.encode path
  | .absent path => "[Errno 2] No such file or directory: " ++ Text.Quoted.encode path
  | .tooLong path => "[Errno 36] File name too long: " ++ Text.Quoted.encode path
  | .holdsNul => "embedded null byte"

/-- Where a path leads. -/
inductive Route where
  | place (names : List String)
  | nowhere
  | tooLong
  deriving DecidableEq, Repr

namespace Folder

/-- What lies at the end of some names. -/
def entry (f : Folder) (names : List String) : Entry :=
  match f.files.lookup names with
  | some bytes => .file bytes
  | none => if names = [] ∨ f.inner.contains names then .folder else .absent

def isFolder (f : Folder) (names : List String) : Bool :=
  match f.entry names with
  | .folder => true
  | _ => false

/-- Whether a name is too long: it takes more than 255 bytes. -/
def isLongName (name : String) : Bool :=
  255 < Text.Utf8.size name

/-- Whether a path is too long as a whole: it takes 4096 bytes or more. -/
def isLongPath (path : String) : Bool :=
  4096 ≤ Text.Utf8.size (Text.Path.normalize path)

/-- Whether a path holds the character that ends a path. -/
def holdsNul (path : String) : Bool :=
  path.toList.contains '\x00'

/-- Where steps lead from a place; every step but the last has to lead to a folder, and a step
upward from the whole folder stays there. -/
def walk (f : Folder) (place : List String) : List String → Route
  | [] => .place place
  | step :: rest =>
    if f.isFolder place then
      if step = ".." then walk f place.dropLast rest
      else if isLongName step then .tooLong
      else walk f (place ++ [step]) rest
    else .nowhere

/-- Where a path starts: at a place, or at the whole folder if it is absolute. -/
def origin (place : List String) (path : String) : List String :=
  if Text.Path.root path = "" then place else []

/-- Where a path from a place leads. -/
def locate (f : Folder) (place : List String) (path : String) : Route :=
  if holdsNul path then .nowhere
  else if isLongPath path then .tooLong
  else f.walk (origin place path) (Text.Path.parts path)

/-- What lies at a path from a place. -/
def look (f : Folder) (place : List String) (path : String) : Except PathFault Entry :=
  match f.locate place path with
  | .place names => .ok (f.entry names)
  | .nowhere => .ok .absent
  | .tooLong => .error (.tooLong (Text.Path.normalize path))

/-- The beginnings of a list, from the first item on. -/
def starts (names : List String) : List (List String) :=
  (List.range names.length).map fun n => names.take (n + 1)

/-- The folder with folders on the way to some names. -/
def withInner (f : Folder) (names : List String) : Folder :=
  { f with inner := f.inner ++ (starts names).filter fun n => !f.inner.contains n }

/-- A path with one more step. -/
def stepped (shown step : String) : String :=
  if shown = "" ∨ shown = "/" then shown ++ step else shown ++ "/" ++ step

/-- Adds the folders that steps lead through, from a place on; `shown` is the path walked so far.
Once a folder was added (`added`), a fault shows the path up to the step that it concerns; before,
it shows the whole path. -/
def makeFrom (f : Folder) (place : List String) (shown : String) (added : Bool) :
    List String → Except PathFault Folder
  | [] => .ok f
  | step :: rest =>
    let here := stepped shown step
    let reported := if added then here else String.intercalate "/" (here :: rest)
    if step = ".." then makeFrom f place.dropLast here added rest
    else if isLongName step then .error (.tooLong reported)
    else
      let next := place ++ [step]
      match f.entry next with
      | .folder => makeFrom f next here added rest
      | .absent => makeFrom (f.withInner next) next here true rest
      | .file _ =>
        if added || rest.isEmpty then .error (.exists here) else .error (.notFolder reported)

/-- The folder in which a path leads to a folder. -/
def make (f : Folder) (place : List String) (path : String) : Except PathFault Folder :=
  if holdsNul path then .error .holdsNul
  else if isLongPath path then .error (.tooLong (Text.Path.normalize path))
  else f.makeFrom (origin place path) (Text.Path.root path) false (Text.Path.parts path)

/-- Bytes written at some names. -/
def put (f : Folder) (names : List String) (bytes : List UInt8) : Folder :=
  { f with files := (names, bytes) :: f.files.filter fun e => e.1 != names }

/-- The folder with a file at a path whose folder is there. -/
def write (f : Folder) (place : List String) (path : String) (bytes : List UInt8) :
    Except PathFault Folder :=
  if holdsNul path then .error .holdsNul
  else
    match f.locate place path with
    | .nowhere => .error (.absent (Text.Path.normalize path))
    | .tooLong => .error (.tooLong (Text.Path.normalize path))
    | .place names =>
      match f.entry names with
      | .folder => .error (.isFolder (Text.Path.normalize path))
      | _ => .ok (f.put names bytes)

/-- The folder with a file at a path, and with the folders on the way there. -/
def save (f : Folder) (place : List String) (path : String) (bytes : List UInt8) :
    Except PathFault Folder := do
  let g ← f.make place (Text.Path.parent path)
  g.write place path bytes

/-- The places that the steps of a path lead through, whatever lies there. -/
def places (place : List String) : List String → List (List String)
  | [] => [place]
  | step :: rest =>
    place :: places (if step = ".." then place.dropLast else place ++ [step]) rest

/-- The places that a path leads through. -/
def placesOf (place : List String) (path : String) : List (List String) :=
  places (origin place path) (Text.Path.parts path)

/-- The folder with what lies at some names. -/
def withEntry (f : Folder) (names : List String) : Entry → Folder
  | .absent => f
  | .folder => f.withInner names
  | .file bytes => f.put names bytes

/-- The files of a folder that another one does not hold as they are. -/
def changed (f before : Folder) : List (List String × List UInt8) :=
  f.files.filter fun e => before.files.lookup e.1 != some e.2

/-- A folder that holds files at paths. -/
def ofFiles (files : List (String × List UInt8)) : Folder :=
  files.foldl (fun f e =>
    let names := Text.Path.parts e.1
    (f.withInner names.dropLast).put names e.2) {}

end Folder

/-- The text of a file, its line breaks all of one kind. -/
def fileText (bytes : List UInt8) : Except Text.Utf8.Fault (List Char) :=
  (Text.Utf8.read bytes).map Text.Utf8.unifyBreaks

/-- Why there is no text at a path where something lies. -/
inductive TextFault where
  | path (f : PathFault)
  | undecodable (f : Text.Utf8.Fault)
  deriving DecidableEq, Repr

def TextFault.message : TextFault → String
  | .path f => f.message
  | .undecodable f => f.message

/-- The text of the file at a path, none where nothing lies. -/
def Folder.text? (f : Folder) (place : List String) (path : String) :
    Except TextFault (Option (List Char)) :=
  match f.look place path with
  | .error fault => .error (.path fault)
  | .ok .absent => .ok none
  | .ok .folder => .error (.path (.isFolder (Text.Path.normalize path)))
  | .ok (.file bytes) =>
    match fileText bytes with
    | .ok cs => .ok (some cs)
    | .error fault => .error (.undecodable fault)

end SchemaIntents
