import SchemaIntents.Yaml.Token

/-!
From a YAML text to its tokens. Indentation opens and closes collections; a key is known only when
its colon is met, and its token then goes to the place where the key began.
-/
namespace SchemaIntents.Yaml

/-- The place where a key may have begun. A required key has to get its colon. -/
structure PossibleKey where
  position : Nat
  required : Bool
  index : Nat
  line : Nat
  column : Nat

/-- The state between two tokens. `indent` is the column of the innermost block collection, and
`keys` holds for each level of flow collections the place where a key may have begun. -/
structure Lexer where
  cursor : Cursor
  tokens : Array Token := #[]
  flow : Nat := 0
  indent : Int := -1
  outer : List Int := []
  keyAllowed : Bool := true
  keys : List (Nat × PossibleKey) := []

namespace Lexer

/-- The longest distance between the start of a key and its colon. -/
def keyLimit : Nat :=
  1024

def push (t : Token) (l : Lexer) : Lexer :=
  { l with tokens := l.tokens.push t }

/-- The lexer after a scanner. -/
def scanning {α : Type} (s : Scan α) (l : Lexer) : Except Fault (α × Lexer) := do
  let (a, cursor) ← StateT.run s l.cursor
  return (a, { l with cursor })

/-- The lexer after some characters. -/
def forward (n : Nat) (l : Lexer) : Lexer :=
  { l with cursor := l.cursor.advance n }

/-- Passes over spaces, comments and breaks to the next token. -/
def toNextToken : Nat → Lexer → Lexer
  | 0, l => l
  | fuel + 1, l =>
    let c := l.cursor.advance (l.cursor.rest.takeWhile (· == ' ')).length
    let c := if c.rest.head? == some '#' then
        c.advance (c.rest.takeWhile fun d => !isBreak d).length
      else c
    match c.rest with
    | d :: _ =>
      if isBreak d then
        toNextToken fuel { l with cursor := c.next, keyAllowed := l.keyAllowed || l.flow == 0 }
      else { l with cursor := c }
    | [] => { l with cursor := c }

/-- Whether a key can no longer get its colon here: it began on an earlier line or too far back. -/
def isStale (l : Lexer) (k : PossibleKey) : Bool :=
  k.line != l.cursor.line || k.index + keyLimit < l.cursor.index

/-- Forgets keys that can no longer get their colon. -/
def dropStaleKeys (l : Lexer) : Except Fault Lexer := do
  if l.keys.any fun e => l.isStale e.2 && e.2.required then throw .malformed
  return { l with keys := l.keys.filter fun e => !l.isStale e.2 }

/-- Forgets the key of the present level. -/
def dropKey (l : Lexer) : Except Fault Lexer := do
  match l.keys.lookup l.flow with
  | none => return l
  | some k =>
    if k.required then throw .malformed
    return { l with keys := l.keys.filter fun e => e.1 != l.flow }

/-- Notes that a key may begin here. -/
def noteKey (l : Lexer) : Except Fault Lexer := do
  if !l.keyAllowed then return l
  let l ← l.dropKey
  let c := l.cursor
  let key : PossibleKey :=
    ⟨l.tokens.size, l.flow == 0 && l.indent == c.column, c.index, c.line, c.column⟩
  return { l with keys := (l.flow, key) :: l.keys }

/-- Closes the block collections that lie deeper than a column. -/
def unwind (column : Int) (l : Lexer) : Lexer :=
  if l.flow != 0 then l
  else
    let closed := (l.indent :: l.outer).takeWhile (column < ·)
    let left := (l.indent :: l.outer).dropWhile (column < ·)
    { l with
      tokens := l.tokens ++ Array.replicate closed.length .blockEnd
      indent := left.head?.getD (-1)
      outer := left.drop 1 }

/-- Opens a block collection at a column if it lies deeper than the present one; its token goes to a
place among the tokens. -/
def openBlock (column position : Nat) (t : Token) (l : Lexer) : Lexer :=
  if l.indent < column then
    { l with
      indent := column
      outer := l.indent :: l.outer
      tokens := l.tokens.insertIdx! position t }
  else l

/-- A mark that closes all block collections. -/
def closing (l : Lexer) : Except Fault Lexer := do
  let l ← (l.unwind (-1)).dropKey
  return { l with keyAllowed := false }

def openFlow (t : Token) (l : Lexer) : Except Fault Lexer := do
  let l ← l.noteKey
  return ({ l with flow := l.flow + 1, keyAllowed := true }.forward 1).push t

def closeFlow (t : Token) (l : Lexer) : Except Fault Lexer := do
  let l ← l.dropKey
  if l.flow == 0 then throw .malformed
  return ({ l with flow := l.flow - 1, keyAllowed := false }.forward 1).push t

def flowEntry (l : Lexer) : Except Fault Lexer := do
  let l ← { l with keyAllowed := true }.dropKey
  return (l.forward 1).push .flowEntry

def blockEntry (l : Lexer) : Except Fault Lexer := do
  if l.flow == 0 && !l.keyAllowed then throw .malformed
  let l := if l.flow == 0 then
      l.openBlock l.cursor.column l.tokens.size .blockSequenceStart
    else l
  let l ← { l with keyAllowed := true }.dropKey
  return (l.forward 1).push .blockEntry

/-- A key that a question mark announces. -/
def explicitKey (l : Lexer) : Except Fault Lexer := do
  if l.flow == 0 && !l.keyAllowed then throw .malformed
  let l := if l.flow == 0 then
      l.openBlock l.cursor.column l.tokens.size .blockMappingStart
    else l
  let l ← { l with keyAllowed := l.flow == 0 }.dropKey
  return (l.forward 1).push .key

/-- The colon before a value. The key before it, if there is one, becomes a key now. -/
def value (l : Lexer) : Except Fault Lexer := do
  match l.keys.lookup l.flow with
  | some k =>
    let l := { l with
      keys := l.keys.filter fun e => e.1 != l.flow
      tokens := l.tokens.insertIdx! k.position .key }
    let l := if l.flow == 0 then l.openBlock k.column k.position .blockMappingStart else l
    return ({ l with keyAllowed := false }.forward 1).push .value
  | none =>
    if l.flow == 0 && !l.keyAllowed then throw .malformed
    let l := if l.flow == 0 then
        l.openBlock l.cursor.column l.tokens.size .blockMappingStart
      else l
    let l ← { l with keyAllowed := l.flow == 0 }.dropKey
    return (l.forward 1).push .value

/-- A token that may begin a key and after which no other key may begin. -/
def leaf (s : Scan Token) (l : Lexer) : Except Fault Lexer := do
  let l ← l.noteKey
  let (t, l) ← { l with keyAllowed := false }.scanning s
  return l.push t

def plainScalar (l : Lexer) : Except Fault Lexer := do
  let l ← l.noteKey
  let ((text, broken), l) ← l.scanning (Scan.plain (l.flow != 0) (l.indent + 1))
  return { l with keyAllowed := broken }.push (.scalar text true)

def blockScalar (folded : Bool) (l : Lexer) : Except Fault Lexer := do
  let l ← { l with keyAllowed := true }.dropKey
  let (text, l) ← l.scanning (Scan.block folded l.indent)
  return l.push (.scalar text false)

/-- Whether a plain scalar may start with a character, given the one after it. -/
def startsPlain (inFlow : Bool) (c : Char) (after : Option Char) : Bool :=
  !(c == ' ' || c == '\t' || isBreak c || "-?:,[]\x7b\x7d#&*!|>'\"%@`".toList.contains c) ||
    (!endsWord after && (c == '-' || (!inFlow && (c == '?' || c == ':'))))

/-- Reads the token that starts with a character. -/
def token (c : Char) (l : Lexer) : Except Fault Lexer :=
  let rest := l.cursor.rest
  let after := rest[1]?
  let atMargin := l.cursor.column == 0
  let inFlow := l.flow != 0
  if c == '%' && atMargin then do
    let l ← l.closing
    let (t, l) ← l.scanning Scan.directive
    return l.push t
  else if atMargin && startsMark "---" rest then
    return ((← l.closing).forward 3).push .documentStart
  else if atMargin && startsMark "..." rest then
    return ((← l.closing).forward 3).push .documentEnd
  else if c == '[' then l.openFlow .flowSequenceStart
  else if c == '\x7b' then l.openFlow .flowMappingStart
  else if c == ']' then l.closeFlow .flowSequenceEnd
  else if c == '\x7d' then l.closeFlow .flowMappingEnd
  else if c == ',' then l.flowEntry
  else if c == '-' && endsWord after then l.blockEntry
  else if c == '?' && (inFlow || endsWord after) then l.explicitKey
  else if c == ':' && (inFlow || endsWord after) then l.value
  else if c == '*' then l.leaf (.alias <$> Scan.anchorName)
  else if c == '&' then l.leaf (.anchor <$> Scan.anchorName)
  else if c == '!' then l.leaf Scan.tag
  else if c == '|' && !inFlow then l.blockScalar false
  else if c == '>' && !inFlow then l.blockScalar true
  else if c == '\'' then l.leaf ((.scalar · false) <$> Scan.quoted false)
  else if c == '"' then l.leaf ((.scalar · false) <$> Scan.quoted true)
  else if startsPlain inFlow c after then l.plainScalar
  else .error .malformed

/-- The tokens that are settled: those before the first place where a key may still turn out to
begin. -/
def settled (l : Lexer) : List Token :=
  let live := l.keys.filter fun e => !l.isStale e.2
  l.tokens.toList.take ((live.map (·.2.position)).foldl min l.tokens.size)

/-- The lexer after the next token, and whether the text ended before it. -/
def step (l : Lexer) : Except Fault (Lexer × Bool) := do
  let l ← (l.toNextToken (l.cursor.rest.length + 1)).dropStaleKeys
  let l := l.unwind l.cursor.column
  match l.cursor.rest with
  | [] => return (← l.closing, true)
  | c :: _ => return (← l.token c, false)

/-- The tokens from here to the end, and why they end early if they do. What is not settled when a
fault comes is never seen. -/
def rest : Nat → Lexer → List Token × Option Fault
  | 0, l => (l.settled, some .malformed)
  | fuel + 1, l =>
    match l.step with
    | .error f => (l.settled, some f)
    | .ok (next, true) => (next.tokens.toList, none)
    | .ok (next, false) => rest fuel next

/-- A character that a YAML text may hold. -/
def isAllowed (c : Char) : Bool :=
  let n := c.toNat
  n == 0x09 || n == 0x0A || n == 0x0D || (0x20 ≤ n && n ≤ 0x7E) || n == 0x85 ||
    (0xA0 ≤ n && n ≤ 0xD7FF) || (0xE000 ≤ n && n ≤ 0xFFFD) || 0x10000 ≤ n

/-- A text without the mark of its byte order. -/
def start (cs : List Char) : Cursor :=
  match cs with
  | '\uFEFF' :: rest => ⟨rest, 1, 0, 0⟩
  | cs => ⟨cs, 0, 0, 0⟩

end Lexer

/-- The tokens of a text, and why they end early if they do. -/
def tokens (cs : List Char) : List Token × Option Fault :=
  if cs.all Lexer.isAllowed then Lexer.rest (cs.length + 1) { cursor := Lexer.start cs }
  else ([], some .malformed)

end SchemaIntents.Yaml
