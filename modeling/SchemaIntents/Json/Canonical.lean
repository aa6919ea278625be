import SchemaIntents.Json.KeyOrder
import SchemaIntents.Json.Text
import SchemaIntents.Text.Utf8
import SchemaIntents.Value.LongNumber

/-!
The canonical JSON text of a value: compact, with the entries of every mapping in the order of their
keys, so that it does not depend on the order or the spacing in which a document was written.
-/
namespace SchemaIntents.Json

/-- Puts an entry before the first entry whose key is greater. -/
def insertBy {κ α : Type} (atMost : κ → κ → Bool) (entry : κ × α) : List (κ × α) → List (κ × α)
  | [] => [entry]
  | e :: rest =>
    if atMost e.1 entry.1 then e :: insertBy atMost entry rest else entry :: e :: rest

/-- Entries in the order of their keys. -/
def sortBy {κ α : Type} (atMost : κ → κ → Bool) (entries : List (κ × α)) : List (κ × α) :=
  entries.foldl (fun sorted e => insertBy atMost e sorted) []

/-- Texts are ordered by code points. -/
def textAtMost (a b : String) : Bool :=
  a ≤ b

/-- Entries as a text between braces. -/
def braced (entries : List (String × String)) : String :=
  "\x7b" ++ String.intercalate "," (entries.map fun e => quoted e.1 ++ ":" ++ e.2) ++ "\x7d"

/-- Items as a text between brackets. -/
def bracketed (items : List String) : String :=
  "[" ++ String.intercalate "," items ++ "]"

mutual

/-- The canonical text. Days, moments, bytes and sets are written as their plain text. -/
def canonical : Value → String
  | .null => "null"
  | .bool b => if b then "true" else "false"
  | .int n => toString n
  | .float x => number x
  | .str s => quoted s
  | .list items => bracketed (canonicalItems items)
  | .pair k v => bracketed [canonical k, canonical v]
  | .obj entries => braced (sortBy textAtMost (canonicalEntries entries))
  | .map entries =>
    braced ((arranged (canonicalPairs entries)).map fun e => (keyText e.1, e.2))
  | v => quoted v.plain

/-- The canonical texts of the items of a list. -/
def canonicalItems : List Value → List String
  | [] => []
  | v :: vs => canonical v :: canonicalItems vs

/-- Entries with the canonical texts of their values. -/
def canonicalEntries : List (String × Value) → List (String × String)
  | [] => []
  | (k, v) :: rest => (k, canonical v) :: canonicalEntries rest

/-- Entries of any keys with the canonical texts of their values. -/
def canonicalPairs : List (Value × Value) → List (Value × String)
  | [] => []
  | (k, v) :: rest => (k, canonical v) :: canonicalPairs rest

end

/-- Why a value has no canonical text. -/
inductive CanonicalFault where
  | key (f : KeyFault)
  /-- A collection that holds itself. -/
  | circular
  /-- A whole number with more digits than are written. -/
  | tooManyDigits
  /-- A list or mapping inside too many others. -/
  | tooDeep
  /-- A text with halves of pairs. -/
  | unencodable (f : Text.Utf8.HalfFault)
  deriving DecidableEq, Repr

def CanonicalFault.message : CanonicalFault → String
  | key f => f.message
  | circular => "Circular reference detected"
  | tooManyDigits => longNumberMessage
  | tooDeep => "maximum recursion depth exceeded while encoding a JSON object"
  | unencodable f => f.message

/-- The fault of a whole number. -/
def numberFault? (n : Int) : Option CanonicalFault :=
  if Value.isLongNumber n then some .tooManyDigits else none

/-- The fault of a key that stands alone. -/
def writtenKeyFault? : Value → Option CanonicalFault
  | .date d => some (.key (.unwritable (Value.date d).qualifiedKindName))
  | .dateTime t => some (.key (.unwritable (Value.dateTime t).qualifiedKindName))
  | .bytes b => some (.key (.unwritable (Value.bytes b).qualifiedKindName))
  | .int n => numberFault? n
  | _ => none

/-- The fault of a value that takes one of the `room` there is for values inside each other. -/
def faultInside (room : Nat) (inner : Nat → Option CanonicalFault) : Option CanonicalFault :=
  match room with
  | 0 => some .tooDeep
  | left + 1 => inner left

mutual

/-- The first fault of a value, in the order in which the canonical text is written. `room` is how
many lists and mappings may stand inside each other; what is written as its plain text counts as
one. -/
def canonicalFault? (room : Nat) : Value → Option CanonicalFault
  | .int n => numberFault? n
  | .list items => faultInside room fun left => itemsFault? left items
  | .pair k v => faultInside room fun left => (canonicalFault? left k).or (canonicalFault? left v)
  | .obj entries =>
    faultInside room fun left => (sortBy textAtMost (entryFaults left entries)).findSome? (·.2)
  | .map entries =>
    faultInside room fun left =>
      match inKeyOrder (pairFaults left entries) with
      | .error f => some (.key f)
      | .ok es => es.findSome? fun e => (writtenKeyFault? e.1).or e.2
  | .set items =>
    faultInside room fun _ =>
      if (Value.set items).hasLongNumber then some .tooManyDigits else none
  | .loop _ => faultInside room fun _ => some .circular
  | .date _ | .dateTime _ | .bytes _ => faultInside room fun _ => none
  | _ => none

/-- The first fault among the items of a list. -/
def itemsFault? (room : Nat) : List Value → Option CanonicalFault
  | [] => none
  | v :: vs => (canonicalFault? room v).or (itemsFault? room vs)

/-- Entries with the faults of their values. -/
def entryFaults (room : Nat) : List (String × Value) → List (String × Option CanonicalFault)
  | [] => []
  | (k, v) :: rest => (k, canonicalFault? room v) :: entryFaults room rest

/-- Entries of any keys with the faults of their values. -/
def pairFaults (room : Nat) : List (Value × Value) → List (Value × Option CanonicalFault)
  | [] => []
  | (k, v) :: rest => (k, canonicalFault? room v) :: pairFaults room rest

end

end SchemaIntents.Json
