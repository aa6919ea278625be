import SchemaIntents.Text.Blank
import SchemaIntents.Text.Casing.Table

/-!
Full letter-case mapping of texts: a letter may become several, and a capital sigma at the end of a
word becomes the final small sigma.
-/
namespace SchemaIntents.Text

open Casing

/-- The small form of one character on its own. -/
def lowerChar (c : Char) : List Char :=
  if c.toNat < 0x80 then [c.toLower]
  else if c.toNat = 0x130 then ['i', '\u0307']
  else [(Run.moved? lowerRuns c).getD c]

/-- The capital form of one character. -/
def upperChar (c : Char) : List Char :=
  if c.toNat < 0x80 then [c.toUpper]
  else match upperSpelled.find? (·.1 == c.toNat) with
    | some e => e.2.map Char.ofNat
    | none => [(Run.moved? upperRuns c).getD c]

/-- Whether the first character that is not passed over is a letter with case. -/
def meetsCased (cs : List Char) : Bool :=
  match cs.dropWhile (inRanges ignorableRanges) with
  | [] => false
  | c :: _ => inRanges casedRanges c

/-- Small form of the rest of a text; `before` holds what was read, nearest character first. -/
def lowerFrom (before : List Char) : List Char → List Char
  | [] => []
  | c :: rest =>
    let small :=
      if c = 'Σ' then
        if meetsCased before && !meetsCased rest then ['ς'] else ['σ']
      else lowerChar c
    small ++ lowerFrom (c :: before) rest

/-- The small form of a text. -/
def lower (s : String) : String :=
  String.ofList (lowerFrom [] s.toList)

/-- The capital form of a text. -/
def upper (s : String) : String :=
  String.ofList (s.toList.flatMap upperChar)

/-- A loose token as tables list it: trimmed and small. -/
def normalize (s : String) : String :=
  lower (trim s)

end SchemaIntents.Text
