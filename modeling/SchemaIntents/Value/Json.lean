import SchemaIntents.Text.Utf8
import SchemaIntents.Value

/-!
Values in what JSON can say, and the first thing in a value that it cannot.
-/
namespace SchemaIntents

/-- Why a value cannot be written as JSON. -/
inductive JsonFault where
  /-- Bytes that encode no text. -/
  | undecodable (f : Text.Utf8.Fault)
  /-- A collection that holds itself. -/
  | circular
  /-- A value inside too many others. -/
  | tooDeep
  /-- A key with halves of pairs, which no bytes encode. -/
  | unencodable (f : Text.Utf8.HalfFault)
  deriving DecidableEq, Repr

def JsonFault.message : JsonFault → String
  | undecodable f => f.message
  | circular => "Circular reference detected (id repeated)"
  | tooDeep => "Maximum serialization depth exceeded"
  | unencodable f => f.message

namespace Value

/-- The text that bytes encode, or nothing. -/
def textOfBytes (bs : List UInt8) : String :=
  match Text.Utf8.read bs with
  | .ok cs => String.ofList cs
  | .error _ => ""

/-- The text that stands for a key that is no text when a value is written as JSON. -/
def jsonKey : Value → String
  | str s => s
  | bool b => if b then "true" else "false"
  | int n => toString n
  | float x => if x.isFinite then x.finiteText else "None"
  | date d => d.text
  | dateTime t => t.isoText
  | bytes bs => textOfBytes bs
  | _ => "None"

mutual

/-- The value in what JSON can say: days and moments in ISO form, bytes as the text they encode,
sets and pairs as lists, and null for numbers that are not finite. Of two keys with one text the
later value counts. -/
def toJson : Value → Value
  | float x => if x.isFinite then float x else null
  | list items => list (toJsonAll items)
  | set items => list (toJsonAll items)
  | pair k v => list [k.toJson, v.toJson]
  | obj entries => obj (toJsonEntries entries)
  | map entries => obj ((toJsonPairs entries).foldl (fun es e => put e.1 e.2 es) [])
  | date d => str d.text
  | dateTime t => str t.isoText
  | bytes bs => str (textOfBytes bs)
  | v => v

def toJsonAll : List Value → List Value
  | [] => []
  | v :: vs => v.toJson :: toJsonAll vs

def toJsonEntries : List (String × Value) → List (String × Value)
  | [] => []
  | (k, v) :: rest => (k, v.toJson) :: toJsonEntries rest

def toJsonPairs : List (Value × Value) → List (String × Value)
  | [] => []
  | (k, v) :: rest => (k.jsonKey, v.toJson) :: toJsonPairs rest

end

/-- Entries with their keys mended. Of two keys that become one the later value counts. -/
def mendKeys {α : Type} (entries : List (String × α)) : List (String × α) :=
  if entries.all fun e => !Text.isTorn e.1 then entries
  else entries.foldl (fun es e => put (Text.mended e.1) e.2 es) []

/-- Why bytes stand for no text, if they do not. -/
def bytesFault? (bs : List UInt8) : Option JsonFault :=
  match Text.Utf8.decode bs with
  | .ok _ => none
  | .error f => some (.undecodable f.general)

/-- Why a text is no key, if it is none. -/
def textKeyFault? (key : String) : Option JsonFault :=
  if Text.isTorn key then some (.unencodable (Text.Utf8.halfFault key.toList)) else none

/-- Why a value is no key, if it is none. -/
def keyFault? : Value → Option JsonFault
  | str s => textKeyFault? s
  | bytes bs => bytesFault? bs
  | _ => none

/-- How many values may lie inside each other. The limit is that of pydantic 2.14; in release 2.13
it is one less. -/
def depthLimit : Nat :=
  255

/-- The fault of a value for which `room` is left: one more value takes one of it. -/
def guarded (room : Nat) (inner : Nat → Option JsonFault) : Option JsonFault :=
  match room with
  | 0 => some .tooDeep
  | room + 1 => inner room

mutual

/-- The first thing in a value that JSON cannot say. `room` is how many values may lie inside each
other from this one on. -/
def faultIn? (room : Nat) : Value → Option JsonFault
  | loop _ => some .circular
  | list items => guarded room fun left => faultInAll? left items
  | set items => guarded room fun left => faultInAll? left items
  | pair k v => guarded room fun left => (faultIn? left k).or (faultIn? left v)
  | obj entries => guarded room fun left => faultInEntries? left entries
  | map entries => guarded room fun left => faultInPairs? left entries
  | bytes bs => guarded room fun _ => bytesFault? bs
  | _ => guarded room fun _ => none

def faultInAll? (room : Nat) : List Value → Option JsonFault
  | [] => none
  | v :: vs => (faultIn? room v).or (faultInAll? room vs)

def faultInEntries? (room : Nat) : List (String × Value) → Option JsonFault
  | [] => none
  | (k, v) :: rest => (textKeyFault? k).or ((faultIn? room v).or (faultInEntries? room rest))

def faultInPairs? (room : Nat) : List (Value × Value) → Option JsonFault
  | [] => none
  | (k, v) :: rest => (keyFault? k).or ((faultIn? room v).or (faultInPairs? room rest))

end

end Value

end SchemaIntents
