import Mathlib
import SchemaIntents.Proofs.Shape.Checking
import SchemaIntents.Proofs.Yaml.Scanning
import SchemaIntents.Yaml.Document

/-! Composing a YAML document: whoever reads a node leaves off inside as many collections as he
began in, and more of them than the most that may lie inside each other take as many tokens that
open one. -/
namespace SchemaIntents.Yaml

open Std.Do

set_option mvcgen.warning false

namespace Compose

/-- A token that a collection may begin with. -/
def opens : Token → Bool
  | .blockEntry => true
  | .flowSequenceStart => true
  | .flowMappingStart => true
  | .blockSequenceStart => true
  | .blockMappingStart => true
  | _ => false

/-- A place in a document: why its tokens end early if they do, the most collections that may have
been opened before their end, and how many of them the place lies in. -/
structure Frame where
  ending : Option Fault
  most : Nat
  depth : Nat

/-- Inside one more collection. -/
def Frame.deeper (p : Frame) : Frame :=
  { p with depth := p.depth + 1 }

variable {p : Frame} {fuel : Nat} {r s : Reading} {t : Token} {ts : List Token}
  {q : List Token → Prop}

/-- The tokens to come open no more collections than may be. -/
def Room (p : Frame) (ts : List Token) : Prop :=
  p.depth + ts.countP opens ≤ p.most

/-- Before the first item of a sequence without an indentation of its own: no other token opens
it. -/
def BeforeItem (p : Frame) (ts : List Token) : Prop :=
  ∃ rest, ts = .blockEntry :: rest ∧ Room p rest

/-- A reading is at a place, before tokens with a property. -/
structure At (p : Frame) (q : List Token → Prop) (r : Reading) : Prop where
  ending_eq : r.ending = p.ending
  depth_eq : r.depth = p.depth
  tokens : q r.tokens

/-- Why composing stops: the tokens make up no document, they end early, or more collections are
opened than may lie inside each other. -/
def Stops (p : Frame) (f : Fault) : Prop :=
  f = .malformed ∨ p.ending = some f ∨ f = .tooDeep ∧ depthLimit < p.most

/-- What begins before tokens with a property leaves off inside as many collections. -/
abbrev KeepsFrom {α : Type} (p : Frame) (q : List Token → Prop) (m : Compose α) : Prop :=
  ⦃fun r => ⌜At p q r⌝⦄ m ⦃post⟨fun _ r => ⌜At p (Room p) r⌝, fun f => ⌜Stops p f⌝⟩⦄

/-- What leaves off inside as many collections as it begins in. -/
abbrev Keeps {α : Type} (p : Frame) (m : Compose α) : Prop :=
  KeepsFrom p (Room p) m

theorem Room.drop (h : Room p ts) : Room p (ts.drop 1) :=
  Nat.le_trans (Nat.add_le_add_left (List.Sublist.countP_le (List.drop_sublist 1 ts)) p.depth) h

/-- A token that a collection begins with makes room for it. -/
theorem Room.opened (h : Room p (t :: ts)) (ho : opens t = true) : Room p.deeper ts := by
  unfold Room at h
  rw [List.countP_cons_of_pos ho] at h
  unfold Room Frame.deeper
  dsimp only
  omega

theorem Room.lt (h : Room p.deeper ts) : p.depth < p.most :=
  Nat.le_trans (Nat.le_add_right _ _) h

theorem Room.lift (h : Room p.deeper ts) : Room p ts :=
  Nat.le_trans (Nat.add_le_add_right (Nat.le_succ p.depth) _) h

namespace At

variable {next : Option Token}

theorem congr (h : At p q r) (he : s.ending = r.ending) (hd : s.depth = r.depth)
    (ht : s.tokens = r.tokens) : At p q s :=
  ⟨he.trans h.ending_eq, hd.trans h.depth_eq, ht ▸ h.tokens⟩

theorem drop (h : At p (Room p) r) :
    At p (Room p) { r with tokens := r.tokens.drop 1 } :=
  ⟨h.ending_eq, h.depth_eq, h.tokens.drop⟩

theorem opened (h : At p (Room p) r ∧ next = r.tokens.head?)
    (hn : next = some t) (ho : opens t = true) :
    At p (Room p.deeper) { r with tokens := r.tokens.drop 1 } := by
  obtain ⟨ts, hts⟩ := List.head?_eq_some_iff.mp (h.2.symm.trans hn)
  have hroom := h.1.tokens
  rw [hts] at hroom
  exact ⟨h.1.ending_eq, h.1.depth_eq, hts ▸ hroom.opened ho⟩

theorem passItem (h : At p (BeforeItem p) r) :
    At p (Room p) { r with tokens := r.tokens.drop 1 } := by
  obtain ⟨ts, hts, hroom⟩ := h.tokens
  exact ⟨h.ending_eq, h.depth_eq, hts ▸ hroom⟩

theorem atItem (h : At p (Room p) r ∧ next = r.tokens.head?)
    (hn : next = some .blockEntry) : At p (BeforeItem p.deeper) r := by
  obtain ⟨ts, hts⟩ := List.head?_eq_some_iff.mp (h.2.symm.trans hn)
  have hroom := h.1.tokens
  rw [hts] at hroom
  exact ⟨h.1.ending_eq, h.1.depth_eq, ts, hts, hroom.opened rfl⟩

end At

@[spec]
theorem keeps_malformed {α : Type} : Keeps p (malformed : Compose α) := by
  intro r _
  exact .inl rfl

/-- Nothing comes after a fault. -/
theorem malformed_spec {α : Type} : ⦃fun _ => ⌜True⌝⦄ (malformed : Compose α)
    ⦃post⟨fun _ _ => ⌜False⌝, fun f => ⌜Stops p f⌝⟩⦄ := by
  intro r _
  exact .inl rfl

theorem peek_spec (q : List Token → Prop) :
    ⦃fun r => ⌜At p q r⌝⦄ peek
    ⦃post⟨fun t r => ⌜At p q r ∧ t = r.tokens.head?⌝, fun f => ⌜Stops p f⌝⟩⦄ := by
  mvcgen [peek, -Spec.throw_Except]
  · rename_i h _ _ _ _ ht
    exact ⟨h, by rw [ht]; rfl⟩
  · rename_i h _ ht
    exact ⟨h, by rw [ht]; rfl⟩
  · rename_i h _ he _
    exact .inr (.inl (h.ending_eq.symm.trans he))

theorem keeps_peek : Keeps p peek := by
  mvcgen [peek_spec]
  exact fun h _ => h

@[spec]
theorem keeps_drop : Keeps p drop := by
  mvcgen [drop]
  rename_i h _
  exact h.drop

@[spec]
theorem keeps_take (t : Token) : Keeps p (take t) := by
  mvcgen [take, keeps_peek]

@[spec]
theorem keeps_demand (t : Token) : Keeps p (demand t) := by
  mvcgen [demand]

@[spec]
theorem keeps_sees (ts : List Token) : Keeps p (sees ts) := by
  mvcgen [sees, keeps_peek]

@[spec]
theorem add_spec (tag : Tag) (content : Content) :
    ⦃fun r => ⌜At p q r⌝⦄ add tag content
    ⦃post⟨fun _ r => ⌜At p q r⌝, fun f => ⌜Stops p f⌝⟩⦄ := by
  mvcgen [add]
  rename_i h _ _
  exact h.congr rfl rfl rfl

@[spec]
theorem fill_spec (n : Nat) (content : Content) : Keeps p (fill n content) := by
  mvcgen [fill]
  rename_i h _
  exact h.congr rfl rfl rfl

@[spec]
theorem keeps_property (given : Properties) : Keeps p (property given) := by
  mvcgen [property, keeps_peek]

@[spec]
theorem keeps_head : Keeps p head := by
  mvcgen [head, tagName]

@[spec]
theorem start_spec (h : Head) (tag : Tag) (content : Content) :
    ⦃fun r => ⌜At p q r⌝⦄ start h tag content
    ⦃post⟨fun _ r => ⌜At p q r⌝, fun f => ⌜Stops p f⌝⟩⦄ := by
  mvcgen [start]
  rename_i h _
  exact h.congr rfl rfl rfl

@[spec]
theorem keeps_bare (h : Head) : Keeps p (bare h) := by
  mvcgen [bare, scalar]

/-- What is read inside one more collection: if that is one too many, so many were opened. -/
theorem inside_spec {α : Type} {parts : Compose α} (hq : ∀ ts, q ts → p.depth < p.most)
    (h : KeepsFrom p.deeper q parts) : KeepsFrom p q (inside parts) := by
  mvcgen [inside, h, -Spec.throw_Except]
  · rename_i r hr _ _ hdeep
    have hmost := hq _ hr.tokens
    rw [← hr.depth_eq] at hmost
    exact .inr (.inr ⟨rfl, Nat.lt_of_le_of_lt hdeep hmost⟩)
  · rename_i r hr _ _ _ _
    exact ⟨hr.ending_eq, congrArg (· + 1) hr.depth_eq, hr.tokens⟩
  · rename_i r hr _ _ _ _ _ s hs _
    exact ⟨hs.ending_eq, hr.depth_eq, hs.tokens.lift⟩

theorem sequence_spec {items : Compose (List Nat)} (head : Head)
    (hq : ∀ ts, q ts → p.depth < p.most) (h : KeepsFrom p.deeper q items) :
    KeepsFrom p q (sequence head items) := by
  have hinside := inside_spec hq h
  mvcgen [sequence, hinside]

theorem mapping_spec {entries : Compose (List (Nat × Nat))} (head : Head)
    (hq : ∀ ts, q ts → p.depth < p.most) (h : KeepsFrom p.deeper q entries) :
    KeepsFrom p q (mapping head entries) := by
  have hinside := inside_spec hq h
  mvcgen [mapping, hinside]

/-- With so much fuel every node, and what is left of every collection, leaves off inside as many
collections as it begins in. -/
structure Composes (fuel : Nat) : Prop where
  node : ∀ p block unindented, Keeps p (node block unindented fuel)
  nodeUnless : ∀ p ends block unindented, Keeps p (nodeUnless ends block unindented fuel)
  blockItems : ∀ p, Keeps p (blockItems fuel)
  unindentedItems : ∀ p, Keeps p (unindentedItems fuel)
  firstItem : ∀ p, KeepsFrom p (BeforeItem p) (Compose.unindentedItems fuel)
  blockEntries : ∀ p, Keeps p (blockEntries fuel)
  flowItems : ∀ p first, Keeps p (flowItems first fuel)
  flowEntries : ∀ p first, Keeps p (flowEntries first fuel)

namespace Composes

theorem node_succ (ih : Composes fuel) (block unindented : Bool) :
    Keeps p (Compose.node block unindented (fuel + 1)) := by
  have hpeek := @peek_spec p (Room p)
  have hunindented (h : Head) : KeepsFrom p (BeforeItem p.deeper)
      (sequence h (Compose.unindentedItems fuel)) :=
    sequence_spec h (fun _ ⟨_, _, h⟩ => h.lt) (ih.firstItem p.deeper)
  have hitems (h : Head) := sequence_spec h (fun _ => Room.lt) (ih.blockItems p.deeper)
  have hflow (h : Head) (first : Bool) :=
    sequence_spec h (fun _ => Room.lt) (ih.flowItems p.deeper first)
  have hentries (h : Head) := mapping_spec h (fun _ => Room.lt) (ih.blockEntries p.deeper)
  have hflow' (h : Head) (first : Bool) :=
    mapping_spec h (fun _ => Room.lt) (ih.flowEntries p.deeper first)
  mvcgen [Compose.node, named, drop, refuseKnown, scalar, malformed_spec, -keeps_malformed, hpeek,
    hunindented, hitems, hflow, hentries, hflow']
  all_goals first
    | exact And.left ‹_›
    | exact At.drop (And.left ‹_›)
    | exact At.opened ‹_› ‹_› rfl
    | exact At.atItem ‹_› ‹_›
    | exact False.elim

theorem nodeUnless_succ (ih : Composes fuel) (ends : List Token) (block unindented : Bool) :
    Keeps p (Compose.nodeUnless ends block unindented (fuel + 1)) := by
  have hnode := ih.node p
  mvcgen [Compose.nodeUnless, empty, hnode]

theorem blockItems_succ (ih : Composes fuel) : Keeps p (Compose.blockItems (fuel + 1)) := by
  have hnode := ih.nodeUnless p
  have hitems := ih.blockItems p
  mvcgen [Compose.blockItems, hnode, hitems]

theorem unindentedItems_succ (ih : Composes fuel) :
    Keeps p (Compose.unindentedItems (fuel + 1)) := by
  have hnode := ih.nodeUnless p
  have hitems := ih.unindentedItems p
  mvcgen [Compose.unindentedItems, hnode, hitems]

theorem firstItem_succ (ih : Composes fuel) :
    KeepsFrom p (BeforeItem p) (Compose.unindentedItems (fuel + 1)) := by
  have hpeek := @peek_spec p (BeforeItem p)
  have hnode := ih.nodeUnless p
  have hitems := ih.unindentedItems p
  mvcgen [Compose.unindentedItems, take, drop, -keeps_take, -keeps_drop, hpeek, hnode, hitems]
  · exact At.passItem (And.left ‹_›)
  · -- the mark of the item is there
    rename_i hnext _ h _
    obtain ⟨ts, hts, -⟩ := h.1.tokens
    rw [h.2, hts] at hnext
    exact absurd rfl hnext

theorem blockEntries_succ (ih : Composes fuel) : Keeps p (Compose.blockEntries (fuel + 1)) := by
  have hnode := ih.nodeUnless p
  have hentries := ih.blockEntries p
  mvcgen [Compose.blockEntries, empty, hnode, hentries]

theorem flowItems_succ (ih : Composes fuel) (first : Bool) :
    Keeps p (Compose.flowItems first (fuel + 1)) := by
  have hnode := ih.node p
  have hunless := ih.nodeUnless p
  have hitems := ih.flowItems p
  mvcgen [Compose.flowItems, empty, hnode, hunless, hitems]

theorem flowEntries_succ (ih : Composes fuel) (first : Bool) :
    Keeps p (Compose.flowEntries first (fuel + 1)) := by
  have hnode := ih.node p
  have hunless := ih.nodeUnless p
  have hentries := ih.flowEntries p
  mvcgen [Compose.flowEntries, empty, hnode, hunless, hentries]

end Composes

theorem composes (fuel : Nat) : Composes fuel := by
  induction fuel with
  | zero => constructor <;> intros <;> intro _ _ <;> exact .inl rfl
  | succ fuel ih =>
    exact ⟨fun _ => ih.node_succ, fun _ => ih.nodeUnless_succ, fun _ => ih.blockItems_succ,
      fun _ => ih.unindentedItems_succ, fun _ => ih.firstItem_succ, fun _ => ih.blockEntries_succ,
      fun _ => ih.flowItems_succ, fun _ => ih.flowEntries_succ⟩

@[spec]
theorem keeps_directives (versioned : Bool) (fuel : Nat) :
    Keeps p (directives versioned fuel) := by
  induction fuel generalizing versioned with
  | zero => exact keeps_malformed
  | succ fuel ih =>
    mvcgen [directives, keeps_peek, ih]
    all_goals
      rename_i h _
      exact h.congr rfl rfl rfl

@[spec]
theorem keeps_skipEnds (fuel : Nat) : Keeps p (skipEnds fuel) := by
  induction fuel with
  | zero => exact keeps_malformed
  | succ fuel ih => mvcgen [skipEnds, ih]

@[spec]
theorem keeps_refuseMore (fuel : Nat) : Keeps p (refuseMore fuel) := by
  mvcgen [refuseMore, keeps_peek]
  rename_i h _
  exact h.congr rfl rfl rfl

theorem keeps_document : Keeps p document := by
  have hnode (fuel : Nat) := (composes fuel).node p
  mvcgen [document, empty, keeps_peek, hnode]

end Compose

/-- A text of which no graph is made is malformed, gives a character by a number that none has, or
opens more collections than may lie inside each other. -/
theorem Graph.stops_ofChars? {cs : List Char} {f : Fault} (h : Graph.ofChars? cs = .error f) :
    Scan.Stops cs f ∨ f = .tooDeep ∧ depthLimit < (tokens cs).1.countP Compose.opens := by
  rcases ht : tokens cs with ⟨ts, ending⟩
  let p : Compose.Frame := ⟨ending, ts.countP Compose.opens, 0⟩
  have hstart : Compose.At p (Compose.Room p) { tokens := ts, ending } :=
    ⟨rfl, rfl, (Nat.zero_add _).le⟩
  have hdocument := Compose.keeps_document _ hstart
  rw [Graph.ofChars?, ht] at h
  rcases bind_eq_error h with h | ⟨_, -, h⟩
  · change ((wp (StateT.run Compose.document _)).apply _).down at hdocument
    rw [h] at hdocument
    rcases hdocument with hm | he | hd
    · exact .inl (.inl hm)
    · exact .inl (stops_tokens (ht ▸ he))
    · exact .inr hd
  · cases h

end SchemaIntents.Yaml
