import SchemaIntents.Value.LongNumber

/-!
Uses that some values do not allow.
-/
namespace SchemaIntents

/-- A value that is used as what it cannot be. -/
inductive Misuse where
  /-- It has no members to go through. -/
  | notIterable (kind : String)
  /-- It cannot be a member of a set or a key. -/
  | unhashable (kind : String)
  /-- It is no text. -/
  | notText (kind : String)
  /-- It is shown, and a whole number in it has more digits than are written. -/
  | tooManyDigits
  /-- It is shown, and a value in it lies inside too many others. -/
  | tooDeep
  /-- It is told in a message, and has halves of pairs. -/
  | torn
  deriving DecidableEq, Repr

def Misuse.message : Misuse → String
  | notIterable kind => "'" ++ kind ++ "' object is not iterable"
  | unhashable kind => "unhashable type: '" ++ kind ++ "'"
  | notText kind => "'" ++ kind ++ "' object has no attribute 'strip'"
  | tooManyDigits => longNumberMessage
  | tooDeep => "maximum recursion depth exceeded while getting the repr of an object"
  | torn => "message: Input should be a valid string, unable to parse raw data as a unicode string"

namespace Value

/-- How many values may lie inside each other where one is shown. Calls that are open at that time
leave no room for more. -/
def shownLimit : Nat :=
  980

/-- The fault of a value for which `room` is left where it is shown. -/
def shownInside (room : Nat) (inner : Nat → Option Misuse) : Option Misuse :=
  match room with
  | 0 => some .tooDeep
  | left + 1 => inner left

mutual

/-- The first fault of a value that is shown, in the order in which it is shown. -/
def shownFault? (room : Nat) : Value → Option Misuse
  | int n => shownInside room fun _ => if isLongNumber n then some .tooManyDigits else none
  | list items => shownInside room fun left => shownItemsFault? left items
  | set items => shownInside room fun left => shownItemsFault? left items
  | pair k v => shownInside room fun left => (shownFault? left k).or (shownFault? left v)
  | obj entries => shownInside room fun left => shownEntriesFault? left entries
  | map entries => shownInside room fun left => shownPairsFault? left entries
  | _ => shownInside room fun _ => none

def shownItemsFault? (room : Nat) : List Value → Option Misuse
  | [] => none
  | v :: vs => (shownFault? room v).or (shownItemsFault? room vs)

def shownEntriesFault? (room : Nat) : List (String × Value) → Option Misuse
  | [] => none
  | (_, v) :: rest => (shownFault? room v).or (shownEntriesFault? room rest)

def shownPairsFault? (room : Nat) : List (Value × Value) → Option Misuse
  | [] => none
  | (k, v) :: rest =>
    (shownFault? room k).or ((shownFault? room v).or (shownPairsFault? room rest))

end

/-- Why a value cannot be shown, if it cannot. -/
def displayFault? (v : Value) : Option Misuse :=
  v.shownFault? shownLimit

/-- A value that is to be shown. -/
def forDisplay (v : Value) : Except Misuse Value :=
  match v.displayFault? with
  | some m => .error m
  | none => .ok v

end Value
end SchemaIntents
