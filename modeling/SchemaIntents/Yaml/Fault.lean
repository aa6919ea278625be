import SchemaIntents.Calendar
import SchemaIntents.Json.Reader
import SchemaIntents.Text.Quoted

/-!
Why a YAML text has no value: it is no YAML, or a scalar in it does not spell what its type asks
for.
-/
namespace SchemaIntents.Yaml

/-- Why a scalar has no value. -/
inductive ScalarFault where
  /-- An escape names a character that does not exist. -/
  | noCharacter
  /-- An escape names a number that is too large to be looked up as a character. -/
  | largeCharacter
  | noWhole (base : Nat) (text : String)
  | tooManyDigits (count : Nat)
  | noReal (text : String)
  /-- A number in sixties has more parts than a real number can count. -/
  | largeReal
  /-- A number without any character. -/
  | noNumeral
  | noFlag (text : String)
  | noStamp
  /-- A day or moment is asked of a collection. -/
  | noStampText
  | noMoment (e : CalendarError)
  deriving DecidableEq, Repr

namespace ScalarFault

/-- A text in quotes, cut off after two hundred characters. -/
def shown (s : String) : String :=
  String.ofList ((Text.Quoted.encode s).toList.take 200)

def message : ScalarFault → String
  | noCharacter => "chr() arg not in range(0x110000)"
  | largeCharacter => "Python int too large to convert to C int"
  | noWhole base text => s!"invalid literal for int() with base {base}: " ++ shown text
  | tooManyDigits n => Json.tooManyDigitsMessage n
  | noReal text => "could not convert string to float: " ++ Text.Quoted.encode text
  | largeReal => "int too large to convert to float"
  | noNumeral => "string index out of range"
  | noFlag text => Text.Quoted.encode text
  | noStamp => "'NoneType' object has no attribute 'groupdict'"
  | noStampText => "expected string or bytes-like object, got 'list'"
  | noMoment e => e.message

end ScalarFault

/-- Why a text cannot be loaded. -/
inductive Fault where
  /-- It is not YAML, or holds what has no value. -/
  | malformed
  | scalar (f : ScalarFault)
  /-- A collection stands inside too many others, or the text of a node or a merge is looked for in
  too many mappings one after another. -/
  | tooDeep
  deriving DecidableEq, Repr

/-- How many collections may stand inside each other. -/
def depthLimit : Nat :=
  488

/-- In how many mappings the text of a node is looked for, each the default of the one before. -/
def textLimit : Nat :=
  986

/-- How many merges may stand inside each other. -/
def mergeLimit : Nat :=
  987

/-- What is said of what goes too deep. -/
def tooDeepMessage : String :=
  "maximum recursion depth exceeded"

end SchemaIntents.Yaml
