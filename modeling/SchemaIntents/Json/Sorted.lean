import SchemaIntents.Json.Canonical

/-!
Objects with their entries sorted by key, at every depth; under some keys the order of entries means
something and is kept.
-/
namespace SchemaIntents.Json

mutual

/-- The value with sorted entries. `kept` are the keys under which entries keep their order, and
`under` is the key that leads to the value. -/
def sorted (kept : List String) (under : String) : Value → Value
  | .obj entries =>
    let es := sortedEntries kept entries
    .obj (if kept.contains under then es else sortBy textAtMost es)
  | .list items => .list (sortedItems kept under items)
  | v => v

def sortedItems (kept : List String) (under : String) : List Value → List Value
  | [] => []
  | v :: vs => sorted kept under v :: sortedItems kept under vs

def sortedEntries (kept : List String) : List (String × Value) → List (String × Value)
  | [] => []
  | (k, v) :: rest => (k, sorted kept k v) :: sortedEntries kept rest

end

end SchemaIntents.Json
