import SchemaIntents.Calendar

/-!
Plain data as intent files hold it: what JSON can say, and the few further kinds that YAML adds.
Mappings keep the order in which their keys were first written.
-/
namespace SchemaIntents

/-- A plain value. `obj` is a mapping whose keys are all texts, `map` one with some other key. A
`pair` is an item of an ordered mapping. A value that holds itself is unfolded up to the places
where it would come again; `loop` stands there, with the value unfolded once more, and after some
turns with nothing in it. -/
inductive Value where
  | null
  | bool (b : Bool)
  | int (n : Int)
  | float (x : Binary64)
  | str (s : String)
  | list (items : List Value)
  | obj (entries : List (String × Value))
  | date (d : Date)
  | dateTime (t : DateTime)
  | bytes (bs : List UInt8)
  | set (items : List Value)
  | map (entries : List (Value × Value))
  | pair (key value : Value)
  | loop (again : Value)
  deriving Repr, Inhabited

namespace Value

/-- The entry of a key. -/
def find? (key : String) : List (String × Value) → Option Value
  | [] => none
  | (k, v) :: rest => if k = key then some v else find? key rest

/-- Writes an entry: in place if the key is there, at the end otherwise. -/
def put {α : Type} (key : String) (value : α) : List (String × α) → List (String × α)
  | [] => [(key, value)]
  | (k, v) :: rest => if k = key then (k, value) :: rest else (k, v) :: put key value rest

/-- The entry of a key, if the value is a mapping that has it. -/
def get? (key : String) : Value → Option Value
  | obj entries => find? key entries
  | loop v => get? key v
  | _ => none

/-- The entries of a mapping whose keys are all texts. -/
def entries? : Value → Option (List (String × Value))
  | obj entries => some entries
  | loop v => v.entries?
  | _ => none

/-- The entry of a text key in a mapping of any keys. -/
def findAny? (key : String) : List (Value × Value) → Option Value
  | [] => none
  | (str k, v) :: rest => if k = key then some v else findAny? key rest
  | _ :: rest => findAny? key rest

/-- The entry of a text key, whatever the other keys are. -/
def lookup? (key : String) : Value → Option Value
  | obj entries => find? key entries
  | map entries => findAny? key entries
  | loop v => lookup? key v
  | _ => none

/-- The entry of a key, or null. -/
def get (v : Value) (key : String) : Value :=
  (v.get? key).getD null

/-- Whether a value counts as something: all but null, false, zero and what is empty. -/
def truthy : Value → Bool
  | null => false
  | bool b => b
  | int n => n != 0
  | float x => !x.isZero
  | str s => s != ""
  | list items => !items.isEmpty
  | obj entries => !entries.isEmpty
  | date _ => true
  | dateTime _ => true
  | bytes bs => !bs.isEmpty
  | set items => !items.isEmpty
  | map entries => !entries.isEmpty
  | pair _ _ => true
  | loop _ => true

/-- The name that messages have for the kind of a value. -/
def kindName : Value → String
  | null => "NoneType"
  | bool _ => "bool"
  | int _ => "int"
  | float _ => "float"
  | str _ => "str"
  | list _ => "list"
  | obj _ => "dict"
  | date _ => "date"
  | dateTime _ => "datetime"
  | bytes _ => "bytes"
  | set _ => "set"
  | map _ => "dict"
  | pair _ _ => "tuple"
  | loop v => v.kindName

/-- The kind of a value with the family that dates and times belong to. -/
def qualifiedKindName : Value → String
  | date _ => "datetime.date"
  | dateTime _ => "datetime.datetime"
  | v => v.kindName

/-- The whole number that a key counts as; truth values count as 0 and 1. -/
def number? : Value → Option (Int ⊕ Binary64)
  | bool b => some (.inl (if b then 1 else 0))
  | int n => some (.inl n)
  | float x => match x.toInt? with
    | some n => some (.inl n)
    | none => some (.inr x)
  | _ => none

/-- Whether two scalars are the same key: numbers by what they count, all else by kind and
content. Only scalars can be keys. -/
def sameKey (a b : Value) : Bool :=
  match a.number?, b.number? with
  | some (.inl m), some (.inl n) => m = n
  | some (.inr x), some (.inr y) => x = y
  | some _, some _ => false
  | none, none => match a, b with
    | null, null => true
    | str s, str t => s = t
    | date d, date e => d = e
    | dateTime t, dateTime u => t.isSame u
    | bytes s, bytes t => s = t
    | _, _ => false
  | _, _ => false

/-- Writes an entry under any key: in place if the same key is there, at the end otherwise. -/
def putAny {α : Type} (key : Value) (value : α) : List (Value × α) → List (Value × α)
  | [] => [(key, value)]
  | (k, v) :: rest =>
    if k.sameKey key then (k, value) :: rest else (k, v) :: putAny key value rest

/-- The text keys of a mapping, if all its keys are texts. -/
def textEntries? : List (Value × Value) → Option (List (String × Value))
  | [] => some []
  | (str k, v) :: rest => (textEntries? rest).map ((k, v) :: ·)
  | _ :: _ => none

/-- A mapping of the given entries. -/
def ofEntries (entries : List (Value × Value)) : Value :=
  match textEntries? entries with
  | some es => obj es
  | none => map entries

/-- A list of texts. -/
def texts (ss : List String) : Value :=
  list (ss.map str)

/-- The entries that are there. -/
def presentEntries : List (String × Option Value) → List (String × Value)
  | [] => []
  | (k, some v) :: rest => (k, v) :: presentEntries rest
  | (_, none) :: rest => presentEntries rest

/-- The mapping of the entries that are there. -/
def ofPresent (entries : List (String × Option Value)) : Value :=
  obj (presentEntries entries)

/-- A list that is there only if it has items. -/
def someList (items : List Value) : Option Value :=
  if items.isEmpty then none else some (list items)

end Value
end SchemaIntents
