import SchemaIntents.Text.Quoted
import SchemaIntents.Value

/-!
Values as messages show them.
-/
namespace SchemaIntents.Value

/-- Items with a comma and a blank between them. -/
def commaSeparated (items : List String) : String :=
  String.intercalate ", " items

/-- An offset as a count of days and seconds. -/
def offsetDisplay (minutes : Int) : String :=
  if minutes = 0 then "datetime.timezone.utc"
  else
    let days := Int.fdiv minutes 1440
    let seconds := (minutes - days * 1440) * 60
    let dayPart := if days = 0 then "" else s!"days={days}, "
    "datetime.timezone(datetime.timedelta(" ++ dayPart ++ s!"seconds={seconds}" ++ "))"

/-- The numbers of a moment, the small ones left out while they are zero. -/
def dateTimeDisplay (t : DateTime) : String :=
  let fine :=
    if t.microsecond ≠ 0 then [toString t.second, toString t.microsecond]
    else if t.second ≠ 0 then [toString t.second] else []
  let zone := match t.offset with
    | none => []
    | some m => ["tzinfo=" ++ offsetDisplay m]
  "datetime.datetime(" ++ commaSeparated
    ([toString t.date.year, toString t.date.month, toString t.date.day, toString t.hour,
      toString t.minute] ++ fine ++ zone) ++ ")"

/-- One byte inside quotes. -/
def escapeByte (quote : Char) (b : UInt8) : List Char :=
  let c := Char.ofNat b.toNat
  if c = '\\' ∨ c = quote then ['\\', c]
  else if c = '\n' then ['\\', 'n']
  else if c = '\r' then ['\\', 'r']
  else if c = '\t' then ['\\', 't']
  else if 0x20 ≤ b && b < 0x7F then [c]
  else '\\' :: 'x' :: Text.Quoted.hex 2 b.toNat

/-- Bytes in quotes, ASCII as it is. -/
def bytesDisplay (bs : List UInt8) : String :=
  let quote := Text.Quoted.quoteFor (bs.map fun b => Char.ofNat b.toNat)
  String.ofList ('b' :: quote :: bs.flatMap (escapeByte quote) ++ [quote])

mutual

/-- A value with its texts in quotes. -/
def display : Value → String
  | null => "None"
  | bool b => if b then "True" else "False"
  | int n => toString n
  | float x => x.text "inf" "nan"
  | str s => Text.Quoted.encode s
  | list items => "[" ++ commaSeparated (displayAll items) ++ "]"
  | obj entries => "\x7b" ++ commaSeparated (displayEntries entries) ++ "\x7d"
  | date d => s!"datetime.date({d.year}, {d.month}, {d.day})"
  | dateTime t => dateTimeDisplay t
  | bytes bs => bytesDisplay bs
  | set [] => "set()"
  | set items => "\x7b" ++ commaSeparated (displayAll items) ++ "\x7d"
  | map entries => "\x7b" ++ commaSeparated (displayPairs entries) ++ "\x7d"
  | pair k v => "(" ++ k.display ++ ", " ++ v.display ++ ")"
  | loop v => if v.kindName = "list" then "[...]" else "\x7b...\x7d"

/-- The items of a list, each displayed. -/
def displayAll : List Value → List String
  | [] => []
  | v :: vs => v.display :: displayAll vs

/-- The entries of a mapping with text keys, each displayed. -/
def displayEntries : List (String × Value) → List String
  | [] => []
  | (k, v) :: rest => (Text.Quoted.encode k ++ ": " ++ v.display) :: displayEntries rest

/-- The entries of a mapping with any keys, each displayed. -/
def displayPairs : List (Value × Value) → List String
  | [] => []
  | (k, v) :: rest => (k.display ++ ": " ++ v.display) :: displayPairs rest

end

/-- A value as plain text: a text as it is, a date in its short form, all else displayed. -/
def plain : Value → String
  | str s => s
  | date d => d.text
  | dateTime t => t.text
  | v => v.display

end SchemaIntents.Value
