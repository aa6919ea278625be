import SchemaIntents.Log
import SchemaIntents.Log.Form
import SchemaIntents.Text.Digit
import SchemaIntents.Text.WordChar

/-!
Formats of log lines: plain text with fields such as `%(message)s`. A doubled percent sign stands
for one.
-/
namespace SchemaIntents.Log

/-- The levels by their names; the first name of a level is the one that lines show. -/
def levels : List (String × Nat) := [
  ("CRITICAL", 50), ("FATAL", 50), ("ERROR", 40), ("WARNING", 30), ("WARN", 30), ("INFO", 20),
  ("DEBUG", 10), ("NOTSET", 0)]

/-- The name of a level. -/
def levelName (level : Nat) : String :=
  match levels.find? fun e => e.2 == level with
  | some (name, _) => name
  | none => s!"Level {level}"

/-- A piece of a format. -/
inductive Piece where
  | text (c : Char)
  /-- A field by its name. -/
  | field (name : String) (form : Form)
  deriving DecidableEq, Repr

/-- A format of log lines. -/
abbrev Format :=
  List Piece

namespace Format

def isFlag (c : Char) : Bool :=
  "#0+ -".toList.contains c

/-- The number that some digits show, and what follows it. -/
def number (cs : List Char) : Nat × List Char :=
  (Numeral.ofDigits 10 (cs.takeWhile Char.isDigit), cs.dropWhile Char.isDigit)

/-- The precision after a point, if there is one, and what follows it. -/
def precision (cs : List Char) : Option Nat × List Char :=
  match cs with
  | '.' :: rest => ((number rest).1, (number rest).2)
  | cs => (none, cs)

/-- What follows a letter that says of what size a number is. -/
def afterSize (cs : List Char) : List Char :=
  match cs with
  | c :: rest => if c = 'h' ∨ c = 'l' ∨ c = 'L' then rest else cs
  | [] => []

/-- The field after a percent sign, and what follows it. -/
def fieldAt? (cs : List Char) : Option (Piece × List Char) :=
  match cs with
  | '(' :: rest =>
    let name := rest.takeWhile (· != ')')
    let form := (rest.drop name.length).drop 1
    let (width, after) := number (form.dropWhile isFlag)
    let (precision, after) := precision after
    match afterSize after with
    | c :: rest =>
      if Form.letters.contains c then
        some (.field (String.ofList name) ⟨c, form.takeWhile isFlag, width, precision⟩, rest)
      else none
    | [] => none
  | _ => none

/-- What follows a count: some digits, or a star for a count that is given elsewhere. -/
def afterCount? (cs : List Char) : Option (List Char) :=
  match cs with
  | '*' :: rest => some rest
  | c :: rest => if Text.isDecimal c then some (rest.dropWhile Text.isDecimal) else none
  | [] => none

/-- The letter of a form, after its flags, its width and its greatest length. -/
def formLetter? (cs : List Char) : Option Char :=
  let flagged := cs.dropWhile isFlag
  let wide := (afterCount? flagged).getD flagged
  match wide with
  | '.' :: rest => (afterCount? rest).bind List.head?
  | rest => rest.head?

/-- Whether a letter is that of a form, small or capital; some letters of other scripts count as `i`
or `s`. -/
def isFormLetter (c : Char) : Bool :=
  "diouxefgcrsa%".toList.contains c.toLower || "İıſ".toList.contains c

/-- Whether a field is here that some value could be shown in. -/
def startsField (cs : List Char) : Bool :=
  match cs with
  | '%' :: '(' :: rest =>
    let name := rest.takeWhile Text.isWordChar
    match rest.drop name.length with
    | ')' :: form => name != [] && (formLetter? form).any isFormLetter
    | _ => false
  | _ => false

/-- Whether there is a field anywhere in a text. -/
def hasField : List Char → Bool
  | [] => false
  | c :: rest => startsField (c :: rest) || hasField rest

/-- The pieces of a text, if each percent sign in it starts a field or stands before another one. -/
def pieces? : Nat → List Char → Option Format
  | 0, _ => none
  | _ + 1, [] => some []
  | fuel + 1, '%' :: '%' :: rest => (pieces? fuel rest).map (.text '%' :: ·)
  | fuel + 1, '%' :: rest =>
    match fieldAt? rest with
    | some (piece, rest) => (pieces? fuel rest).map (piece :: ·)
    | none => none
  | fuel + 1, c :: rest => (pieces? fuel rest).map (.text c :: ·)

/-- The value of a field of a record that was logged at a time. -/
def value? (time : String) (r : Record) (field : String) : Option FieldValue :=
  match field with
  | "asctime" => some (.text time)
  | "name" => some (.text r.logger)
  | "levelname" => some (.text (levelName r.level))
  | "levelno" => some (.number r.level)
  | "message" => some (.text r.message)
  | "msg" => some (.text r.message)
  | "args" => some (.word "()")
  | "threadName" => some (.text "MainThread")
  | "processName" => some (.text "MainProcess")
  | "exc_info" => some (.word "None")
  | "exc_text" => some (.word "None")
  | "stack_info" => some (.word "None")
  | _ => none

/-- The characters of a piece in the line of a record; none for a field that records do not have, or
not in that form. -/
def shown? (time : String) (r : Record) : Piece → Option (List Char)
  | .text c => some [c]
  | .field name form => (value? time r name).bind form.show?

/-- The line of a record; none if the format has a field that records do not have. -/
def line? (f : Format) (time : String) (r : Record) : Option String :=
  (f.mapM (shown? time r)).map fun parts => String.ofList parts.flatten

/-- The format of lines where nothing else is asked for. -/
def standard : String :=
  "%(asctime)s - %(name)s - %(levelname)s - %(message)s"

/-- A format in the way it is written. A format without any field is refused; one that no record
fits shows no lines. -/
def ofText (s : String) : Except String (Option Format) :=
  let text := if s = "" then "%(message)s" else s
  if hasField text.toList then .ok (pieces? (text.length + 1) text.toList)
  else .error ("Invalid format '" ++ text ++ "' for '%' style")

end Format
end SchemaIntents.Log
