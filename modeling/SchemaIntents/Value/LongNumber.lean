import SchemaIntents.Value

/-!
Whole numbers that are too long to be written.
-/
namespace SchemaIntents

/-- The most digits that a whole number is written with. -/
def longestNumber : Nat :=
  4300

/-- What is said of a whole number that has more digits than are written. -/
def longNumberMessage : String :=
  s!"Exceeds the limit ({longestNumber} digits) for integer string conversion; " ++
    "use sys.set_int_max_str_digits() to increase the limit"

namespace Value

/-- Whether a whole number has more digits than are written. -/
def isLongNumber (n : Int) : Bool :=
  Nat.pow 10 longestNumber ≤ n.natAbs

mutual

/-- Whether a value holds a whole number that has more digits than are written. -/
def hasLongNumber : Value → Bool
  | int n => isLongNumber n
  | list items => hasLongItem items
  | set items => hasLongItem items
  | pair k v => hasLongNumber k || hasLongNumber v
  | obj entries => hasLongEntry entries
  | map entries => hasLongPair entries
  | _ => false

def hasLongItem : List Value → Bool
  | [] => false
  | v :: vs => hasLongNumber v || hasLongItem vs

def hasLongEntry : List (String × Value) → Bool
  | [] => false
  | (_, v) :: rest => hasLongNumber v || hasLongEntry rest

def hasLongPair : List (Value × Value) → Bool
  | [] => false
  | (k, v) :: rest => hasLongNumber k || hasLongNumber v || hasLongPair rest

end

end Value
end SchemaIntents
