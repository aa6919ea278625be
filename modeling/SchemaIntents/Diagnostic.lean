import SchemaIntents.Shape.Issue
import SchemaIntents.Value.Misuse

/-!
Diagnostics: what is said about an intent while it is resolved, each with a code, a severity, a text
and the path of the place in the intent that it speaks of.
-/
namespace SchemaIntents

/-- How grave a diagnostic is. Only errors keep an intent from being resolved. -/
inductive Severity where
  | error
  | warning
  | info
  deriving DecidableEq, Repr

namespace Severity

def name : Severity → String
  | error => "error"
  | warning => "warning"
  | info => "info"

def ofName? (s : String) : Option Severity :=
  if s = "error" then some error
  else if s = "warning" then some warning
  else if s = "info" then some info
  else none

end Severity

/-- A finding about a place in an intent or a document. -/
structure Diagnostic where
  code : String
  severity : Severity
  message : String
  path : String
  deriving DecidableEq, Repr

namespace Diagnostic

def isError (d : Diagnostic) : Bool :=
  d.severity =
.error 
def toValue (d : Diagnostic) : Value :=
  .obj [("code", .str d.code), ("severity", .str d.severity.name), ("message", .str d.message),
    ("path", .str d.path)]

/-- Why a diagnostic cannot be made, if it cannot: its message must have no halves of pairs. -/
def misuse? (d : Diagnostic) : Option Misuse :=
  if Text.isTorn d.message then some .torn else none

/-- Why the first diagnostic that cannot be made cannot. -/
def firstMisuse? (ds : List Diagnostic) : Option Misuse :=
  ds.findSome? misuse?

end Diagnostic

/-- One step of a path: positions in brackets, keys after a point. -/
def Step.text : Step → String
  | .key name => "." ++ name
  | .index position => s!"[{position}]"

/-- The path of a location, seen from a root. -/
def Location.pathFrom (root : String) (location : Location) : String :=
  location.foldl (fun path step => path ++ step.text) root

/-- The path of a location in an intent, whose root is written `$`. -/
def Location.path (location : Location) : String :=
  Location.pathFrom "$" location

end SchemaIntents
