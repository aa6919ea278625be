import SchemaIntents.Json.KeyOrder
import SchemaIntents.Yaml.Document
import SchemaIntents.Yaml.Scalar

/-!
From the graph of a YAML document to the value that it stands for. Nodes are read in the order in
which they are reached: a scalar at once, a collection after all that were reached before it. The
first node that spells no value of its type is the fault.
-/
namespace SchemaIntents.Yaml

/-- What a node stands for: a scalar, or a collection whose parts are known once it was read. -/
inductive Object where
  | scalar (v : Value)
  | unread
  | list (items : List Nat)
  | pairs (items : List (Nat × Nat))
  | set (members : List Value)
  | map (entries : List (Value × Nat))
  deriving Repr

/-- The graph, what its nodes stand for as far as they were reached, and the collections in the
order in which they were reached. -/
structure Loading where
  graph : Graph
  objects : Array (Option Object)
  reached : Array Nat := #[]

/-- The loading with other entries of a mapping. -/
def Loading.withEntries (l : Loading) (n : Nat) (es : List (Nat × Nat)) : Loading :=
  { l with graph := l.graph.withContent n (.mapping es) }

/-- The loading with the marks of a default among some keys made texts. -/
def Loading.withNamedDefaults (l : Loading) (es : List (Nat × Nat)) : Loading :=
  { l with graph := l.graph.withNamedDefaults es }

abbrev Load :=
  StateT Loading (Except Fault)

namespace Load

def malformed {α : Type} : Load α :=
  throw .malformed

/-- Notes what a node stands for. -/
def become (n : Nat) (o : Object) : Load Unit :=
  modify fun l => { l with objects := l.objects.setIfInBounds n (some o) }

/-- The value of a node whose tag stands for a single one. A moment is asked of the text of a scalar
alone. -/
def scalarOf (g : Graph) (n : Nat) (node : Node) : Except Fault Value :=
  match g.text n, node with
  | .error f, _ => .error f
  | .ok _, ⟨.timestamp, .mapping _⟩ => Scalar.fault .noStampText
  | .ok s, _ => Scalar.value (Binary64.nanNumbered n) node.tag s

/-- Reaches a node. -/
def reach (n : Nat) : Load Unit := do
  let l ← get
  match l.objects[n]?, l.graph[n]? with
  | some none, some node =>
    if node.tag.isScalar then
      become n (.scalar (← scalarOf l.graph n node))
    else if node.tag.isCollection then
      become n .unread
      modify fun l => { l with reached := l.reached.push n }
    else malformed
  | some (some _), _ => return
  | _, _ => malformed

/-- Reaches a node that is a key, which has to be a scalar. -/
def key (n : Nat) : Load Value := do
  reach n
  match (← get).objects[n]? with
  | some (some (.scalar v)) => return v
  | _ => malformed

/-- The entries of a mapping. -/
def entriesOf (n : Nat) : Load (List (Nat × Nat)) := do
  match (← get).graph.entries? n with
  | some es => return es
  | none => malformed

/-- Takes the merging entries out of a mapping, at most so many; gives the entries that they
bring. -/
def takeMerges (bring : Nat → Load (List (Nat × Nat))) (n : Nat) : Nat → Load (List (Nat × Nat))
  | 0 => return []
  | left + 1 => do
    let es ← entriesOf n
    let g := (← get).graph
    match es.dropWhile fun e => !g.isMerge e with
    | [] => return []
    | (_, source) :: rest =>
      let own := es.takeWhile fun e => !g.isMerge e
      modify fun l => l.withEntries n (own ++ rest)
      let here ← bring source
      return here ++ (← takeMerges bring n left)

/-- The entries that a node brings where it is merged: those of a mapping after its own merges, or
those of a list of mappings, of which the first is the strongest and so comes last. -/
def brought (merge : Nat → Load (List (Nat × Nat))) (source : Nat) : Load (List (Nat × Nat)) := do
  match (← get).graph[source]?.map Node.content with
  | some (.mapping _) => merge source
  | some (.sequence items) =>
    items.foldlM (fun later n => do
      discard (entriesOf n)
      return (← merge n) ++ later) []
  | _ => malformed

/-- Puts entries in front of those of a mapping, and makes the marks of a default among its keys
texts. -/
def prepend (n : Nat) (merged : List (Nat × Nat)) : Load (List (Nat × Nat)) := do
  let es := merged ++ (← entriesOf n)
  modify fun l => (l.withNamedDefaults es).withEntries n es
  return es

/-- Does the merges of a mapping: what they bring stands in front. `room` is how many merges may
still stand inside each other. -/
def merge (room : Nat) (n : Nat) : Load (List (Nat × Nat)) :=
  match room with
  | 0 => throw .tooDeep
  | room + 1 => do
    let own ← entriesOf n
    let merged ← takeMerges (brought (merge room)) n own.length
    prepend n merged

/-- The entries of a mapping, each key before its value: a later value takes the place of an earlier
one. -/
def readEntries (n : Nat) : Load (List (Value × Nat)) := do
  let es ← merge mergeLimit n
  es.foldlM (fun read e => do
    let k ← key e.1
    reach e.2
    return Value.putAny k e.2 read) []

/-- An item of a list of pairs: a mapping with one entry. -/
def readPair (n : Nat) : Load (Nat × Nat) := do
  match ← entriesOf n with
  | [(k, v)] =>
    reach k
    reach v
    return (k, v)
  | _ => malformed

/-- Reads a collection. The members of a set stand in the order of keys, if they have one. -/
def read (n : Nat) : Load Unit := do
  match (← get).graph[n]? with
  | some ⟨.sequence, .sequence items⟩ =>
    items.forM reach
    become n (.list items)
  | some ⟨.mapping, .mapping _⟩ => become n (.map (← readEntries n))
  | some ⟨.set, .mapping _⟩ => become n (.set ((Json.arranged (← readEntries n)).map (·.1)))
  | some ⟨.orderedMapping, .sequence items⟩ => become n (.pairs (← items.mapM readPair))
  | some ⟨.pairs, .sequence items⟩ => become n (.pairs (← items.mapM readPair))
  | _ => malformed

/-- Reads the collections from a place in the order on, and those that they reach. -/
def readFrom (place : Nat) : Nat → Load Unit
  | 0 => return
  | fuel + 1 => do
    match (← get).reached[place]? with
    | none => return
    | some n =>
      read n
      readFrom (place + 1) fuel

/-- Reads a node and all that lies in it. -/
def readAll (root : Nat) : Load Unit := do
  reach root
  readFrom 0 ((← get).graph.size + 1)

end Load

/-- What a node stands for with nothing in it. -/
def hollow (objects : Array (Option Object)) (n : Nat) : Value :=
  match objects[n]?.join with
  | some (.map _) => .obj []
  | _ => .list []

/-- The value of a node inside some others; where one of them comes again, a value is put in its
place. Each step inward takes one unit of the fuel. -/
def unfold (objects : Array (Option Object)) (again : Nat → Value) (outer : List Nat) :
    Nat → Nat → Value
  | 0, _ => .null
  | fuel + 1, n =>
    let inner := unfold objects again (n :: outer) fuel
    if outer.contains n then .loop (again n)
    else
      match objects[n]?.join with
      | none => .null
      | some .unread => .null
      | some (.scalar v) => v
      | some (.list items) => .list (items.map inner)
      | some (.pairs items) => .list (items.map fun e => .pair (inner e.1) (inner e.2))
      | some (.set members) => .set members
      | some (.map entries) => .ofEntries (entries.map fun e => (e.1, inner e.2))

/-- The value of a node, unfolded for some turns where it comes again. -/
def valueOf (objects : Array (Option Object)) : Nat → Nat → Value
  | 0, n => unfold objects (hollow objects) [] (objects.size + 1) n
  | turns + 1, n => unfold objects (valueOf objects turns) [] (objects.size + 1) n

/-- How often a value that comes again is unfolded: more often than models lie inside each other. -/
def turns : Nat :=
  3

/-- The value that a YAML text stands for; null for a text without a document. -/
def load (cs : List Char) : Except Fault Value := do
  match ← Graph.ofChars? cs with
  | none => return .null
  | some (graph, root) =>
    let (_, l) ← StateT.run (Load.readAll root)
      { graph, objects := Array.replicate graph.size none }
    return valueOf l.objects turns root

end SchemaIntents.Yaml
