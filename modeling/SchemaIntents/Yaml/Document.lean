import SchemaIntents.Yaml.Graph
import SchemaIntents.Yaml.Lexer

/-!
From the tokens of a document to its graph: scalars, sequences and mappings with their types. A node
that was named stands in every place where its name is used, also inside itself.
-/
namespace SchemaIntents.Yaml

/-- The tokens to come, why they end early if they do, the handles of tags, the nodes so far, the
names that were given to them, and how many collections the present place lies in. -/
structure Reading where
  tokens : List Token
  ending : Option Fault
  handles : List (String × String) := []
  graph : Graph := #[]
  names : List (String × Nat) := []
  depth : Nat := 0

abbrev Compose :=
  StateT Reading (Except Fault)

namespace Compose

def malformed {α : Type} : Compose α :=
  throw .malformed

/-- The next token; none at the end. -/
def peek : Compose (Option Token) := do
  let r ← get
  match r.tokens, r.ending with
  | t :: _, _ => return some t
  | [], none => return none
  | [], some f => throw f

def drop : Compose Unit :=
  modify fun r => { r with tokens := r.tokens.drop 1 }

/-- Takes a token if it is next. -/
def take (t : Token) : Compose Bool := do
  if (← peek) == some t then
    drop
    return true
  else return false

/-- Takes a token that has to be next. -/
def demand (t : Token) : Compose Unit := do
  if !(← take t) then malformed

/-- Whether one of some tokens is next, or the end where the end is among them. -/
def sees (ts : List Token) : Compose Bool := do
  match ← peek with
  | some t => return ts.contains t
  | none => return false

/-- The handles that are known without a directive. -/
def standardHandles : List (String × String) :=
  [("!", "!"), ("!!", Tag.standard)]

/-- The number of a new node. -/
def add (tag : Tag) (content : Content) : Compose Nat := do
  let n := (← get).graph.size
  modify fun r => { r with graph := r.graph.push ⟨tag, content⟩ }
  return n

/-- Gives a node its content. -/
def fill (n : Nat) (content : Content) : Compose Unit :=
  modify fun r => { r with graph := r.graph.withContent n content }

/-- A scalar that is not there. -/
def empty : Compose Nat :=
  add .null (.scalar "")

/-- The name and the tag before a node. A tag is given by its handle, if it has one, and its
suffix. -/
structure Properties where
  anchor : Option String := none
  tag : Option (Option String × String) := none

/-- The name or the tag that is next, if there is one that is not given yet. -/
def property (p : Properties) : Compose Properties := do
  match ← peek with
  | some (.anchor name) =>
    if p.anchor.isSome then return p
    drop
    return { p with anchor := some name }
  | some (.tag handle suffix) =>
    if p.tag.isSome then return p
    drop
    return { p with tag := some (handle, suffix) }
  | _ => return p

/-- What is known of a node before its content: its name and the full name of its tag. -/
structure Head where
  anchor : Option String
  tag : Option String

/-- The full name of a tag. -/
def tagName (tag : Option String × String) : Compose String := do
  match tag with
  | (none, suffix) => return suffix
  | (some handle, suffix) =>
    match ((← get).handles ++ standardHandles).lookup handle with
    | some start => return start ++ suffix
    | none => malformed

/-- The properties before a node, its tag with its full name. -/
def head : Compose Head := do
  let p ← property (← property {})
  match p.tag with
  | none => return ⟨p.anchor, none⟩
  | some tag => return ⟨p.anchor, some (← tagName tag)⟩

/-- The type of a node with a tag, or without one. -/
def typeOr (h : Head) (otherwise : Tag) : Tag :=
  match h.tag with
  | none => otherwise
  | some "!" => otherwise
  | some name => .ofName name

/-- The type of a scalar. A plain one without a tag, and any with a lone mark, has the type that it
shows. -/
def scalarType (h : Head) (text : String) (isPlain : Bool) : Tag :=
  if (isPlain && h.tag.isNone) || h.tag == some "!" then .ofPlain text else typeOr h .text

/-- Refuses a name that was given before. -/
def refuseKnown (h : Head) : Compose Unit := do
  match h.anchor with
  | none => return
  | some name => if ((← get).names.lookup name).isSome then malformed

/-- A new node, which has its name from now on. -/
def start (h : Head) (tag : Tag) (content : Content) : Compose Nat := do
  let n ← add tag content
  match h.anchor with
  | none => return n
  | some name =>
    modify fun r => { r with names := (name, n) :: r.names }
    return n

/-- The node that a name stands for. -/
def named (name : String) : Compose Nat := do
  match (← get).names.lookup name with
  | some n => return n
  | none => malformed

/-- A scalar. -/
def scalar (h : Head) (text : String) (isPlain : Bool) : Compose Nat :=
  start h (scalarType h text isPlain) (.scalar text)

/-- What is read inside one more collection. -/
def inside {α : Type} (parts : Compose α) : Compose α := do
  let depth := (← get).depth
  if depthLimit ≤ depth then throw .tooDeep
  modify fun r => { r with depth := depth + 1 }
  let a ← parts
  modify fun r => { r with depth }
  return a

/-- A sequence whose items are read once it has its number. -/
def sequence (h : Head) (items : Compose (List Nat)) : Compose Nat := do
  let n ← start h (typeOr h .sequence) (.sequence [])
  fill n (.sequence (← inside items))
  return n

/-- A mapping whose entries are read once it has its number. -/
def mapping (h : Head) (entries : Compose (List (Nat × Nat))) : Compose Nat := do
  let n ← start h (typeOr h .mapping) (.mapping [])
  fill n (.mapping (← inside entries))
  return n

/-- A node that has properties but no content. -/
def bare (h : Head) : Compose Nat := do
  if h.anchor.isNone && h.tag.isNone then malformed
  scalar h "" true

mutual

/-- A node. Block collections may stand only where blocks may, and entries without an indentation of
their own only after a key. -/
def node (block unindented : Bool) : Nat → Compose Nat
  | 0 => malformed
  | fuel + 1 => do
    match ← peek with
    | some (.alias name) =>
      drop
      named name
    | _ =>
      let h ← head
      let next ← peek
      refuseKnown h
      match next with
      | some .blockEntry =>
        if unindented then sequence h (unindentedItems fuel) else bare h
      | some (.scalar text isPlain) =>
        drop
        scalar h text isPlain
      | some .flowSequenceStart =>
        drop
        sequence h (flowItems true fuel)
      | some .flowMappingStart =>
        drop
        mapping h (flowEntries true fuel)
      | some .blockSequenceStart =>
        if block then
          drop
          sequence h (blockItems fuel)
        else bare h
      | some .blockMappingStart =>
        if block then
          drop
          mapping h (blockEntries fuel)
        else bare h
      | _ => bare h

/-- A node, or an empty one where one of some tokens comes. -/
def nodeUnless (ends : List Token) (block unindented : Bool) : Nat → Compose Nat
  | 0 => malformed
  | fuel + 1 => do
    if ← sees ends then empty else node block unindented fuel

def blockItems : Nat → Compose (List Nat)
  | 0 => malformed
  | fuel + 1 => do
    if ← take .blockEntry then
      let item ← nodeUnless [.blockEntry, .blockEnd] true false fuel
      return item :: (← blockItems fuel)
    demand .blockEnd
    return []

def unindentedItems : Nat → Compose (List Nat)
  | 0 => malformed
  | fuel + 1 => do
    if ← take .blockEntry then
      let item ← nodeUnless [.blockEntry, .key, .value, .blockEnd] true false fuel
      return item :: (← unindentedItems fuel)
    return []

def blockEntries : Nat → Compose (List (Nat × Nat))
  | 0 => malformed
  | fuel + 1 => do
    if ← take .key then
      let key ← nodeUnless [.key, .value, .blockEnd] true true fuel
      let value ← if ← take .value then nodeUnless [.key, .value, .blockEnd] true true fuel
        else empty
      return (key, value) :: (← blockEntries fuel)
    demand .blockEnd
    return []

/-- The items of a flow sequence. A pair among them is a mapping of its own. -/
def flowItems (first : Bool) : Nat → Compose (List Nat)
  | 0 => malformed
  | fuel + 1 => do
    if ← take .flowSequenceEnd then return []
    if !first then demand .flowEntry
    if ← take .key then
      let key ← nodeUnless [.value, .flowEntry, .flowSequenceEnd] false false fuel
      let value ← if ← take .value then nodeUnless [.flowEntry, .flowSequenceEnd] false false fuel
        else empty
      let pair ← add .mapping (.mapping [(key, value)])
      return pair :: (← flowItems false fuel)
    if ← take .flowSequenceEnd then return []
    let item ← node false false fuel
    return item :: (← flowItems false fuel)

def flowEntries (first : Bool) : Nat → Compose (List (Nat × Nat))
  | 0 => malformed
  | fuel + 1 => do
    if ← take .flowMappingEnd then return []
    if !first then demand .flowEntry
    if ← take .key then
      let key ← nodeUnless [.value, .flowEntry, .flowMappingEnd] false false fuel
      let value ← if ← take .value then nodeUnless [.flowEntry, .flowMappingEnd] false false fuel
        else empty
      return (key, value) :: (← flowEntries false fuel)
    if ← take .flowMappingEnd then return []
    let key ← node false false fuel
    let value ← empty
    return (key, value) :: (← flowEntries false fuel)

end

/-- The directives before a document. The version is given at most once, and so is each handle. -/
def directives (versioned : Bool) : Nat → Compose Unit
  | 0 => malformed
  | fuel + 1 => do
    match ← peek with
    | some (.versionDirective major) =>
      if versioned || major != 1 then malformed
      drop
      directives true fuel
    | some (.tagDirective handle start) =>
      if ((← get).handles.lookup handle).isSome then malformed
      drop
      modify fun r => { r with handles := (handle, start) :: r.handles }
      directives versioned fuel
    | some .otherDirective =>
      drop
      directives versioned fuel
    | _ => return

/-- Passes over marks of the end of a document. -/
def skipEnds : Nat → Compose Unit
  | 0 => malformed
  | fuel + 1 => do
    if ← take .documentEnd then skipEnds fuel

/-- Whether a document starts here with directives or a mark. -/
def startsExplicitly : Option Token → Bool
  | some (.versionDirective _) => true
  | some (.tagDirective _ _) => true
  | some .otherDirective => true
  | some .documentStart => true
  | _ => false

/-- Whether nothing stands between two marks of documents. -/
def isVoid : Option Token → Bool
  | none => true
  | some .documentEnd => true
  | t => startsExplicitly t

/-- Refuses a second document, but reads its directives and looks at what follows them. -/
def refuseMore (fuel : Nat) : Compose Unit := do
  if (← peek).isNone then return
  modify fun r => { r with handles := [] }
  directives false fuel
  let _ ← peek
  malformed

/-- The only document of a stream, or none if the stream is empty. -/
def document : Compose (Option Nat) := do
  let fuel := 4 * (← get).tokens.length + 4
  if (← peek).isNone then return none
  if startsExplicitly (← peek) then
    directives false fuel
    demand .documentStart
  else if isVoid (← peek) then malformed
  let root ← if isVoid (← peek) then empty else node true false fuel
  skipEnds fuel
  refuseMore fuel
  return some root

end Compose

/-- The graph of a YAML text and the number of its root, or none if the text is empty. -/
def Graph.ofChars? (cs : List Char) : Except Fault (Option (Graph × Nat)) := do
  let (tokens, ending) := tokens cs
  let (root, r) ← StateT.run Compose.document { tokens, ending }
  return root.map fun n => (r.graph, n)

end SchemaIntents.Yaml
