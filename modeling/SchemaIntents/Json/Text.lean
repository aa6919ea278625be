import SchemaIntents.Value.Display

/-!
The scalars of JSON texts. Characters outside ASCII stay as they are.
-/
namespace SchemaIntents.Json

/-- One character of a text; only quotes, backslashes and controls are escaped. -/
def escape (c : Char) : List Char :=
  if c = '"' then ['\\', '"']
  else if c = '\\' then ['\\', '\\']
  else if c = '\n' then ['\\', 'n']
  else if c = '\r' then ['\\', 'r']
  else if c = '\t' then ['\\', 't']
  else if c = '\x08' then ['\\', 'b']
  else if c = '\x0c' then ['\\', 'f']
  else if c.toNat < 0x20 then '\\' :: 'u' :: Text.Quoted.hex 4 c.toNat
  else [c]

/-- A text in double quotes. -/
def quoted (s : String) : String :=
  String.ofList ('"' :: s.toList.flatMap escape ++ ['"'])

/-- A number as JSON writes it, with words for what JSON has no number for. -/
def number (x : Binary64) : String :=
  x.text "Infinity" "NaN"

/-- The text that stands for a key that is no text itself. -/
def keyText : Value → String
  | .null => "null"
  | .bool b => if b then "true" else "false"
  | .float x => number x
  | v => v.plain

end SchemaIntents.Json
