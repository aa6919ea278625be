import SchemaIntents.Decimal.Numeral
import SchemaIntents.Yaml.Cursor

/-!
The texts of scalars: in quotes, in blocks, and plain.
-/
namespace SchemaIntents.Yaml.Scan

def isBlank (c : Char) : Bool :=
  c == ' ' || c == '\t'

def isHex (c : Char) : Bool :=
  c.isDigit || ('a' ≤ c && c ≤ 'f') || ('A' ≤ c && c ≤ 'F')

/-- The characters that letters after a backslash stand for. -/
def escapes : List (Char × Char) := [
  ('0', '\x00'), ('a', '\x07'), ('b', '\x08'), ('t', '\x09'), ('\t', '\x09'), ('n', '\x0a'),
  ('v', '\x0b'), ('f', '\x0c'), ('r', '\x0d'), ('e', '\x1b'), (' ', ' '), ('"', '"'),
  ('\\', '\\'), ('/', '/'), ('N', '\u0085'), ('_', '\u00a0'), ('L', '\u2028'), ('P', '\u2029')]

/-- The number of digits after letters that announce a code point. -/
def codeLengths : List (Char × Nat) :=
  [('x', 2), ('u', 4), ('U', 8)]

/-- The number in a count of hexadecimal digits. -/
def hexNumber (digits : Nat) : Scan Nat := do
  let ds := (← get).rest.take digits
  if ds.length < digits || !ds.all isHex then malformed
  forward digits
  return Numeral.ofDigits 16 ds

/-- The characters of a code point in hexadecimal digits. Halves of a pair stay two code points. -/
def codePoint (digits : Nat) : Scan (List Char) := do
  let n ← hexNumber digits
  if 0x7FFFFFFF < n then throw (.scalar .largeCharacter)
  if 0x10FFFF < n then throw (.scalar .noCharacter)
  return (Text.Point.ofNat n).held

/-- The breaks of empty lines inside quotes. No document may start or end there. -/
def quotedBreaks : Nat → Scan (List Char)
  | 0 => return []
  | fuel + 1 => do
    if startsDocumentMark (← get).rest then malformed
    skip isBlank
    match ← lineBreak with
    | [] => return []
    | b => return b ++ (← quotedBreaks fuel)

/-- What an escape stands for, after its backslash. -/
def escape : Scan (List Char) := do
  match ← peek with
  | none => malformed
  | some c =>
    match escapes.lookup c with
    | some d =>
      forward 1
      return [d]
    | none =>
      match codeLengths.lookup c with
      | some n =>
        forward 1
        codePoint n
      | none =>
        if isBreak c then
          discard lineBreak
          quotedBreaks (← bound)
        else malformed

/-- Characters inside quotes that are neither blanks nor breaks. -/
def quotedWord (double : Bool) : Nat → Scan (List Char)
  | 0 => return []
  | fuel + 1 => do
    let word ← run fun c => !(c == '\'' || c == '"' || c == '\\' || isBlank c || isBreak c)
    match ← peek with
    | some '\'' =>
      if double then
        forward 1
        return word ++ '\'' :: (← quotedWord double fuel)
      else if (← peekAt 1) == some '\'' then
        forward 2
        return word ++ '\'' :: (← quotedWord double fuel)
      else return word
    | some '"' =>
      if double then return word
      else
        forward 1
        return word ++ '"' :: (← quotedWord double fuel)
    | some '\\' =>
      forward 1
      let cs ← if double then escape else pure ['\\']
      return word ++ cs ++ (← quotedWord double fuel)
    | _ => return word

/-- Blanks and breaks inside quotes: one break becomes a blank, and of more the first is dropped. -/
def quotedGap : Scan (List Char) := do
  let blanks ← run isBlank
  match ← peek with
  | none => malformed
  | some c =>
    if isBreak c then
      let first ← lineBreak
      let more ← quotedBreaks (← bound)
      if first != ['\n'] then return first ++ more
      else if more.isEmpty then return [' ']
      else return more
    else return blanks

/-- Words and gaps up to the closing quote. -/
def quotedRest (double : Bool) : Nat → Scan (List Char)
  | 0 => malformed
  | fuel + 1 => do
    let word ← quotedWord double (← bound)
    if (← peek) == some (if double then '"' else '\'') then return word
    let gap ← quotedGap
    return word ++ gap ++ (← quotedRest double fuel)

/-- A scalar in single or double quotes. -/
def quoted (double : Bool) : Scan String := do
  forward 1
  let cs ← quotedRest double (← bound)
  forward 1
  return String.ofList cs

/-- What ends a plain word: a blank, a break, a colon before a gap, and in a flow its
punctuation. -/
def plainWord (inFlow : Bool) : List Char → List Char
  | [] => []
  | c :: rest =>
    let flowEnd (d : Char) : Bool := inFlow &&
      (d == ',' || d == '[' || d == ']' || d == '\x7b' || d == '\x7d')
    let colon := c == ':' && (endsWord rest.head? || rest.head?.any flowEnd)
    if isBlank c || isBreak c || colon || flowEnd c || (inFlow && c == '?') then []
    else c :: plainWord inFlow rest

/-- The breaks of empty lines in a plain scalar; none if a document ends there. -/
def plainBreaks : Nat → Scan (Option (List Char))
  | 0 => return some []
  | fuel + 1 => do
    skipSpaces
    match ← lineBreak with
    | [] => return some []
    | b =>
      if startsDocumentMark (← get).rest then return none
      return (← plainBreaks fuel).map (b ++ ·)

/-- The gap after a plain word, and whether it holds a break. -/
def plainGap : Scan (List Char × Bool) := do
  let spaces ← run (· == ' ')
  match ← lineBreak with
  | [] => return (spaces, false)
  | first =>
    if startsDocumentMark (← get).rest then return ([], true)
    match ← plainBreaks (← bound) with
    | none => return ([], true)
    | some more =>
      if first != ['\n'] then return (first ++ more, true)
      else if more.isEmpty then return ([' '], true)
      else return (more, true)

/-- Words and gaps of a plain scalar that lies deeper than an indentation, and whether a break
follows the last word. -/
def plainRest (inFlow : Bool) (indent : Int) (broken : Bool) (gap : List Char) :
    Nat → Scan (List Char × Bool)
  | 0 => return ([], broken)
  | fuel + 1 => do
    if (← peek) == some '#' then return ([], broken)
    match plainWord inFlow (← get).rest with
    | [] => return ([], broken)
    | word =>
      forward word.length
      let (next, broken) ← plainGap
      if next.isEmpty || (← peek) == some '#' || (!inFlow && (← get).column < indent) then
        return (gap ++ word, broken)
      let (more, broken) ← plainRest inFlow indent broken next fuel
      return (gap ++ word ++ more, broken)

/-- A plain scalar, and whether a break follows it. -/
def plain (inFlow : Bool) (indent : Int) : Scan (String × Bool) := do
  let (cs, broken) ← plainRest inFlow indent false [] (← bound)
  return (String.ofList cs, broken)

/-- What happens to the breaks at the end of a block: they are dropped, one is kept, or all are. -/
inductive Chomping where
  | strip
  | clip
  | keep

/-- The sign for the end of a block, if one is here. -/
def chomping? : Scan (Option Chomping) := do
  match ← peek with
  | some '+' =>
    forward 1
    return some .keep
  | some '-' =>
    forward 1
    return some .strip
  | _ => return none

/-- The digit for the indentation of a block, if one is here. -/
def increment? : Scan (Option Nat) := do
  match (← peek).bind Numeral.digit? with
  | some 0 => malformed
  | some n =>
    forward 1
    return some n
  | none => return none

/-- The signs at the head of a block, in either order. -/
def blockHead : Scan (Chomping × Option Nat) := do
  let first ← chomping?
  let digit ← increment?
  let last ← if first.isNone && digit.isSome then chomping? else pure none
  if !endsItem (← peek) then malformed
  return ((first.or last).getD .clip, digit)

/-- The rest of a line that may only hold a comment. -/
def restOfLine : Scan Unit := do
  skipSpaces
  if (← peek) == some '#' then skip fun c => !isBreak c
  if !endsLine (← peek) then malformed
  discard lineBreak

/-- The breaks before the first line of a block, and the deepest indentation met. -/
def leadingBreaks (deepest : Nat) : Nat → Scan (List Char × Nat)
  | 0 => return ([], deepest)
  | fuel + 1 => do
    skipSpaces
    let deepest := max deepest (← get).column
    match ← lineBreak with
    | [] => return ([], deepest)
    | b =>
      let (more, deepest) ← leadingBreaks deepest fuel
      return (b ++ more, deepest)

/-- Passes over spaces up to a column. -/
def indentTo (indent : Nat) : Scan Unit := do
  let c ← get
  forward ((c.rest.take (indent - c.column)).takeWhile (· == ' ')).length

/-- The breaks of empty lines in a block. -/
def blockBreaks (indent : Nat) : Nat → Scan (List Char)
  | 0 => return []
  | fuel + 1 => do
    indentTo indent
    match ← lineBreak with
    | [] => return []
    | b => return b ++ (← blockBreaks indent fuel)

/-- The lines of a block: their text, the last break, and the breaks after it. -/
def blockLines (folded : Bool) (indent : Nat) (breaks : List Char) :
    Nat → Scan (List Char × List Char × List Char)
  | 0 => return ([], [], breaks)
  | fuel + 1 => do
    let c ← get
    if c.column != indent || c.rest.isEmpty then return ([], [], breaks)
    let flush := !(c.rest.head?.any isBlank)
    let line ← run fun c => !isBreak c
    let ending ← lineBreak
    let next ← blockBreaks indent (← bound)
    let d ← get
    if d.column == indent && !d.rest.isEmpty then
      let joint :=
        if folded && ending == ['\n'] && flush && !(d.rest.head?.any isBlank) then
          if next.isEmpty then [' '] else []
        else ending
      let (more, last) ← blockLines folded indent next fuel
      return (breaks ++ line ++ joint ++ more, last)
    else return (breaks ++ line, ending, next)

/-- A scalar in a block below an indentation, literal or folded. -/
def block (folded : Bool) (outer : Int) : Scan String := do
  forward 1
  let (chomping, increment) ← blockHead
  restOfLine
  let least := (max 1 (outer + 1)).toNat
  let (breaks, indent) ← match increment with
    | none =>
      let (breaks, deepest) ← leadingBreaks 0 (← bound)
      pure (breaks, max least deepest)
    | some n =>
      let indent := least + n - 1
      let breaks ← blockBreaks indent (← bound)
      pure (breaks, indent)
  let (text, ending, after) ← blockLines folded indent breaks (← bound)
  return String.ofList <| match chomping with
    | .strip => text
    | .clip => text ++ ending
    | .keep => text ++ ending ++ after

end SchemaIntents.Yaml.Scan
