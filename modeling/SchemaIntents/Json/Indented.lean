import SchemaIntents.Json.Text

/-!
The indented JSON text of a value, as files hold it: one entry or item on a line, two blanks of
indentation for each depth, entries in their own order.
-/
namespace SchemaIntents.Json

/-- A line break and the indentation of a depth. -/
def newline (depth : Nat) : String :=
  String.ofList ('\n' :: List.replicate (2 * depth) ' ')

/-- Parts between brackets, one on a line; nothing between the brackets if there is no part. -/
def block (opening closing : String) (depth : Nat) (parts : List String) : String :=
  if parts.isEmpty then opening ++ closing
  else
    let separator := "," ++ newline (depth + 1)
    opening ++ newline (depth + 1) ++ String.intercalate separator parts ++ newline depth ++ closing

mutual

/-- The indented text of a value that stands at a depth. -/
def indentedAt (depth : Nat) : Value → String
  | .null => "null"
  | .bool b => if b then "true" else "false"
  | .int n => toString n
  | .float x => number x
  | .str s => quoted s
  | .list items => block "[" "]" depth (indentedItems (depth + 1) items)
  | .pair k v => block "[" "]" depth [indentedAt (depth + 1) k, indentedAt (depth + 1) v]
  | .obj entries => block "\x7b" "\x7d" depth (indentedEntries (depth + 1) entries)
  | .map entries => block "\x7b" "\x7d" depth (indentedPairs (depth + 1) entries)
  | v => quoted v.plain

/-- The indented texts of the items of a list. -/
def indentedItems (depth : Nat) : List Value → List String
  | [] => []
  | v :: vs => indentedAt depth v :: indentedItems depth vs

/-- The indented texts of entries. -/
def indentedEntries (depth : Nat) : List (String × Value) → List String
  | [] => []
  | (k, v) :: rest => (quoted k ++ ": " ++ indentedAt depth v) :: indentedEntries depth rest

/-- The indented texts of entries of any keys. -/
def indentedPairs (depth : Nat) : List (Value × Value) → List String
  | [] => []
  | (k, v) :: rest => (quoted (keyText k) ++ ": " ++ indentedAt depth v) :: indentedPairs depth rest

end

/-- The indented text of a value. -/
def indented (v : Value) : String :=
  indentedAt 0 v

end SchemaIntents.Json
