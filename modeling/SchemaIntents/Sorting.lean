/-!
Sorting by an order that some items may not have between them. The items that already rise or fall
at the front are taken as a whole, and each later one is inserted at the place that halving finds.
So an item is never compared with more others than it has to be, and the first pair without an order
is the fault.
-/
namespace SchemaIntents.Sorting

variable {α ε : Type} (before : α → α → Except ε Bool)

/-- The items at the front of a list none of which comes before the one in front of it, where `last`
stands in front of the list, and the others. -/
def rising (last : α) : List α → Except ε (List α × List α)
  | [] => .ok ([], [])
  | x :: rest => do
    if ← before x last then return ([], x :: rest)
    let (run, more) ← rising x rest
    return (x :: run, more)

/-- The items at the front of a list each of which comes before the one in front of it, and the
others. -/
def falling (last : α) : List α → Except ε (List α × List α)
  | [] => .ok ([], [])
  | x :: rest => do
    if !(← before x last) then return ([], x :: rest)
    let (run, more) ← falling x rest
    return (x :: run, more)

/-- The items at the front that rise or fall, in rising order, and the others. -/
def front : List α → Except ε (List α × List α)
  | x :: y :: rest => do
    if ← before y x then
      let (run, more) ← falling before y rest
      return ((x :: y :: run).reverse, more)
    else
      let (run, more) ← rising before y rest
      return (x :: y :: run, more)
  | xs => .ok (xs, [])

/-- The place of an item among sorted ones, known to lie between two places; each halving takes one
unit of the fuel. -/
def placeOf (x : α) (sorted : Array α) : Nat → Nat → Nat → Except ε Nat
  | 0, low, _ => .ok low
  | fuel + 1, low, high => do
    if low < high then
      let middle := (low + high) / 2
      match sorted[middle]? with
      | none => return low
      | some y =>
        if ← before x y then placeOf x sorted fuel low middle
        else placeOf x sorted fuel (middle + 1) high
    else return low

/-- Sorted items with others put among them one after the other, each behind its equals. -/
def insertAll (sorted : Array α) : List α → Except ε (Array α)
  | [] => .ok sorted
  | x :: rest => do
    let place ← placeOf before x sorted (sorted.size + 1) 0 sorted.size
    insertAll (sorted.insertIdx! place x) rest

/-- The items in their order. -/
def sort (items : List α) : Except ε (List α) := do
  let (run, more) ← front before items
  return (← insertAll before run.toArray more).toList

end SchemaIntents.Sorting
