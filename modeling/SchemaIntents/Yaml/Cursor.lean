import SchemaIntents.Yaml.Fault

/-!
Places in a YAML text, and scanners that move from one place to a later one.
-/
namespace SchemaIntents.Yaml

/-- A line break. -/
def isBreak (c : Char) : Bool :=
  c == '\n' || c == '\u0085' || c == '\u2028' || c == '\u2029'

/-- A place in a text: what follows it, its offset, its line and its column. -/
structure Cursor where
  rest : List Char
  index : Nat := 0
  line : Nat := 0
  column : Nat := 0

namespace Cursor

/-- The place after one character. -/
def next (c : Cursor) : Cursor :=
  match c.rest with
  | [] => c
  | ch :: rest =>
    if isBreak ch then ⟨rest, c.index + 1, c.line + 1, 0⟩
    else if ch = '\uFEFF' then ⟨rest, c.index + 1, c.line, c.column⟩
    else
      let width := if Text.isMark ch then 0 else 1
      ⟨rest, c.index + width, c.line, c.column + width⟩

/-- The place after some characters. -/
def advance : Nat → Cursor → Cursor
  | 0, c => c
  | n + 1, c => advance n c.next

end Cursor

/-- A scanner: it reads from a place and leaves a later one. -/
abbrev Scan :=
  StateT Cursor (Except Fault)

namespace Scan

def malformed {α : Type} : Scan α :=
  throw .malformed

/-- The next character, if there is one. -/
def peek : Scan (Option Char) :=
  return (← get).rest.head?

/-- The character after some others. -/
def peekAt (n : Nat) : Scan (Option Char) :=
  return (← get).rest[n]?

def forward (n : Nat) : Scan Unit :=
  modify (Cursor.advance n)

/-- The longest run of characters of a class. -/
def run (p : Char → Bool) : Scan (List Char) := do
  let cs := (← get).rest.takeWhile p
  forward cs.length
  return cs

/-- Passes over the longest run of characters of a class. -/
def skip (p : Char → Bool) : Scan Unit :=
  discard (run p)

def skipSpaces : Scan Unit :=
  skip (· == ' ')

/-- A line break, if one is next. Separators of lines and paragraphs stay what they are. -/
def lineBreak : Scan (List Char) := do
  match ← peek with
  | some c =>
    if isBreak c then
      forward 1
      return if c = '\u2028' ∨ c = '\u2029' then [c] else ['\n']
    else return []
  | none => return []

/-- The most steps that a loop from here on can take. -/
def bound : Scan Nat :=
  return (← get).rest.length + 1

end Scan

/-- Whether a line ends here. -/
def endsLine : Option Char → Bool
  | none => true
  | some c => isBreak c

/-- Whether a word ends here: at a blank, a break or the end. -/
def endsWord : Option Char → Bool
  | none => true
  | some c => c == ' ' || c == '\t' || isBreak c

/-- Whether a blank that is no tab, a break or the end is here. -/
def endsItem : Option Char → Bool
  | none => true
  | some c => c == ' ' || isBreak c

/-- Whether a text starts with a mark, three characters that end a word. -/
def startsMark (mark : String) (cs : List Char) : Bool :=
  mark.toList.isPrefixOf cs && endsWord cs[3]?

/-- Whether a text starts with a mark of the start or the end of a document. -/
def startsDocumentMark (cs : List Char) : Bool :=
  startsMark "---" cs || startsMark "..." cs

end SchemaIntents.Yaml
