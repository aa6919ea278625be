import SchemaIntents.Yaml.Fault
import SchemaIntents.Yaml.Tag

/-!
The nodes of a document by their numbers. A node may stand at several places, and even inside
itself, so that a document is a graph.
-/
namespace SchemaIntents.Yaml

/-- What a node consists of; parts are given by their numbers. -/
inductive Content where
  | scalar (text : String)
  | sequence (items : List Nat)
  | mapping (entries : List (Nat × Nat))
  deriving DecidableEq, Repr

/-- A node: the type that it is read as, and what it consists of. -/
structure Node where
  tag : Tag
  content : Content
  deriving DecidableEq, Repr

/-- Nodes by their numbers. -/
abbrev Graph :=
  Array Node

namespace Graph

/-- The graph with another content of a node. -/
def withContent (g : Graph) (n : Nat) (c : Content) : Graph :=
  g.modify n fun node => { node with content := c }

/-- The graph with another tag of a node. -/
def withTag (g : Graph) (n : Nat) (t : Tag) : Graph :=
  g.modify n fun node => { node with tag := t }

/-- Whether a node has a tag. -/
def hasTag (g : Graph) (n : Nat) (t : Tag) : Bool :=
  g[n]?.any fun node => node.tag = t

/-- The entries of a mapping. -/
def entries? (g : Graph) (n : Nat) : Option (List (Nat × Nat)) :=
  match g[n]? with
  | some ⟨_, .mapping entries⟩ => some entries
  | _ => none

/-- The node that a mapping has as its default. -/
def default? (g : Graph) (n : Nat) : Option Nat := do
  let entries ← g.entries? n
  let e ← entries.find? fun e => g.hasTag e.1 .default
  return e.2

/-- The text of a scalar, or of the default of a mapping that stands for one. `room` is in how many
nodes it may be looked for; a mapping that is its own default takes all of it. -/
def textFrom (g : Graph) : Nat → Nat → Except Fault String
  | 0, _ => .error .tooDeep
  | room + 1, n =>
    match g[n]? with
    | some ⟨_, .scalar s⟩ => .ok s
    | _ =>
      match g.default? n with
      | some m => textFrom g room m
      | none => .error .malformed

/-- The text that a node stands for. -/
def text (g : Graph) (n : Nat) : Except Fault String :=
  g.textFrom textLimit n

/-- Whether an entry merges another mapping into its own. -/
def isMerge (g : Graph) (e : Nat × Nat) : Bool :=
  g.hasTag e.1 .merge

/-- The graph with the marks of a default among some keys made texts. -/
def withNamedDefaults (g : Graph) (es : List (Nat × Nat)) : Graph :=
  es.foldl (fun g e => if g.hasTag e.1 .default then g.withTag e.1 .text else g) g

end Graph
end SchemaIntents.Yaml
