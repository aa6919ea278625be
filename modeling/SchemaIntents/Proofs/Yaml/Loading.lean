import Mathlib
import SchemaIntents.Proofs.Yaml.Composing
import SchemaIntents.Proofs.Yaml.Growth

/-! Loading a YAML text: why it is not loaded, where the reason is another than its form. It then
gives a character by a number that none has, opens too many collections, hands a text on or merges
too often, or holds a scalar that spells no value of its type. -/
namespace SchemaIntents.Yaml

open Std.Do

set_option mvcgen.warning false

/-- A node of a graph spells no value of its type: its text does not, which is that of some scalar
and its own if it is one, or it is a mapping where a day or moment is asked for. -/
inductive Misspells (g : Graph) : Fault → Prop
  | text {n m : Nat} {node : Node} {t : Tag} {s : String} {f : Fault} (hn : g[n]? = some node)
      (hm : g[m]? = some ⟨t, .scalar s⟩) (hown : ∀ own, node.content = .scalar own → own = s)
      (hv : Scalar.value (Binary64.nanNumbered n) node.tag s = .error f) : Misspells g f
  | stamp {n : Nat} {entries : List (Nat × Nat)}
      (hn : g[n]? = some ⟨.timestamp, .mapping entries⟩) : Misspells g (.scalar .noStampText)

/-- A graph asks for too much: a text is handed on from mapping to mapping too often, or there are
as many merges as may not stand inside each other. -/
inductive Deepens (g : Graph) : Prop
  | text (path : List Nat) (hlong : textLimit < path.length) (hpath : path.IsChain g.Hands)
  | merges (hmany : mergeLimit ≤ ∑ n ∈ Finset.range g.size, g.merges n)

namespace Load

variable {g : Graph} {few : Nat → Nat}

/-- Why loading stops: what is no document, a node that spells no value, or what goes too deep. -/
def Stops (g : Graph) (f : Fault) : Prop :=
  f = .malformed ∨ Misspells g f ∨ f = .tooDeep ∧ Deepens g

theorem stops_scalarOf {g' : Graph} (hg : Grown g g') {n : Nat} {node : Node} {f : Fault}
    (hn : g'[n]? = some node) (h : scalarOf g' n node = .error f) : Stops g f := by
  obtain ⟨first, hfirst, hlater⟩ := hg.later n node hn
  unfold scalarOf at h
  split at h
  · rename_i f' _ htext
    cases h
    rcases exists_path htext with hf | ⟨hf, path, hlen, hpath⟩
    · exact .inl hf
    · refine .inr (.inr ⟨hf, .text (n :: path) ?_ (hpath.imp fun _ _ => hg.hands)⟩)
      rw [List.length_cons, hlen]
      exact Nat.lt_succ_self textLimit
  · cases h
    obtain ⟨es, hes⟩ : ∃ es, first.content = .mapping es := by
      rcases hlater.content with hsame | ⟨es, _, hes, -⟩
      · exact ⟨_, hsame.symm⟩
      · exact ⟨es, hes⟩
    have htag : .timestamp = first.tag := hlater.tag.resolve_right fun h => Tag.noConfusion h.2
    have hstamp : g[n]? = some ⟨.timestamp, .mapping es⟩ := by rw [hfirst, htag, ← hes]
    exact .inr (.inl (.stamp hstamp))
  · rename_i node _ _ s htext _
    obtain ⟨⟨m, t, hm⟩, hown⟩ := exists_scalar htext
    obtain ⟨t', hm⟩ := hg.scalar hm
    have hfirstOwn (own : String) (ho : first.content = .scalar own) : own = s := by
      rcases hlater.content with hsame | ⟨_, _, hmapping, -⟩
      · exact hown node.tag own (by rw [hn, ← ho, ← hsame])
      · rw [ho] at hmapping
        cases hmapping
    have htag : f = .malformed ∨ node.tag = first.tag := by
      rcases hlater.tag with hsame | ⟨-, hsame⟩
      · exact .inr hsame
      · rw [hsame] at h
        cases h
    rcases htag with hf | htag
    · exact .inl hf
    exact .inr (.inl (.text hfirst hm hfirstOwn (htag ▸ h)))

theorem scalarOf_spec (g' : Graph) (n : Nat) (node : Node) :
    ⦃⌜Grown g g' ∧ g'[n]? = some node⌝⦄ scalarOf g' n node
    ⦃post⟨fun _ => ⌜True⌝, fun f => ⌜Stops g f⌝⟩⦄ := by
  intro h
  cases hs : scalarOf g' n node with
  | ok v => trivial
  | error f => exact stops_scalarOf h.1 h.2 hs

/-- A graph is being loaded, and each of its nodes has only `few` entries left that merge. -/
structure Of (g : Graph) (few : Nat → Nat) (l : Loading) : Prop where
  grown : Grown g l.graph
  merges_le : ∀ n, l.graph.merges n ≤ few n

/-- A step of the loading of a graph. -/
abbrev Keeps (g : Graph) (few : Nat → Nat) {α : Type} (m : Load α) : Prop :=
  ⦃fun l => ⌜Of g few l⌝⦄ m ⦃post⟨fun _ l => ⌜Of g few l⌝, fun f => ⌜Stops g f⌝⟩⦄

/-- A step of the loading of a graph that gives entries of which none merges. -/
abbrev Brings (g : Graph) (few : Nat → Nat) (m : Load (List (Nat × Nat))) : Prop :=
  ⦃fun l => ⌜Of g few l⌝⦄ m
  ⦃post⟨fun es l => ⌜Of g few l ∧ ∀ e ∈ es, g.isMerge e = false⌝, fun f => ⌜Stops g f⌝⟩⦄

@[spec]
theorem keeps_malformed {α : Type} : Keeps g few (malformed : Load α) := by
  intro l _
  exact .inl rfl

@[spec]
theorem keeps_become (n : Nat) (o : Object) : Keeps g few (become n o) := by
  mvcgen [become]
  rename_i h _
  exact ⟨h.grown, h.merges_le⟩

@[spec]
theorem keeps_reach (n : Nat) : Keeps g few (reach n) := by
  have hscalar := @scalarOf_spec g
  mvcgen [reach, hscalar]
  · exact ⟨Of.grown ‹_›, ‹_›⟩
  · rename_i h _
    exact ⟨h.grown, h.merges_le⟩

@[spec]
theorem keeps_key (n : Nat) : Keeps g few (key n) := by
  mvcgen [key]

@[spec]
theorem entriesOf_spec (n : Nat) :
    ⦃fun l => ⌜Of g few l⌝⦄ entriesOf n
    ⦃post⟨fun es l => ⌜Of g few l ∧ l.graph.entries? n = some es⌝, fun f => ⌜Stops g f⌝⟩⦄ := by
  mvcgen [entriesOf, malformed, -Spec.throw_Except]
  exact .inl rfl

theorem keeps_pure {α : Type} (a : α) : Keeps g few (pure a : Load α) :=
  Triple.pure a fun _ => id

theorem keeps_bind {α β : Type} {m : Load α} {f : α → Load β} (hm : Keeps g few m)
    (hf : ∀ a, Keeps g few (f a)) : Keeps g few (m >>= f) :=
  Triple.bind m f hm hf

theorem keeps_forM {α : Type} {f : α → Load PUnit} (h : ∀ a, Keeps g few (f a)) (as : List α) :
    Keeps g few (as.forM f) := by
  induction as with
  | nil => exact keeps_pure _
  | cons a as ih => exact keeps_bind (h a) fun _ => ih

theorem keeps_foldlM {α β : Type} {f : β → α → Load β} (h : ∀ b a, Keeps g few (f b a)) (b : β)
    (as : List α) : Keeps g few (as.foldlM f b) := by
  induction as generalizing b with
  | nil => exact keeps_pure b
  | cons a as ih => exact keeps_bind (h b a) ih

theorem keeps_mapM {α β : Type} {f : α → Load β} (h : ∀ a, Keeps g few (f a)) (as : List α) :
    Keeps g few (as.mapM f) := by
  induction as with
  | nil => exact keeps_pure []
  | cons a as ih =>
    rw [List.mapM_cons]
    exact keeps_bind (h a) fun b => keeps_bind ih fun bs => keeps_pure (b :: bs)

@[spec]
theorem keeps_discard_entriesOf (n : Nat) : Keeps g few (Functor.discard (entriesOf n)) := by
  have hbind : Keeps g few (entriesOf n >>= fun _ => pure ()) := by
    mvcgen
    exact And.left ‹_›
  exact hbind

/-- A node whose first merge is taken out has one left less. -/
theorem Of.withoutMerge {l : Loading} {n : Nat} {es rest : List (Nat × Nat)} {e : Nat × Nat}
    (h : Of g few l) (hes : l.graph.entries? n = some es)
    (hdrop : es.dropWhile (fun e => !l.graph.isMerge e) = e :: rest) :
    Of g (Function.update few n (few n - 1))
      (l.withEntries n (es.takeWhile (fun e => !l.graph.isMerge e) ++ rest)) ∧
      n < g.size ∧ 0 < few n := by
  set own := es.takeWhile fun e => !l.graph.isMerge e
  have hsplit : own ++ e :: rest = es := by rw [← hdrop, List.takeWhile_append_dropWhile]
  have he : g.isMerge e = true := by
    have hfirst := List.head?_dropWhile_not (fun e => !l.graph.isMerge e) es
    rw [hdrop] at hfirst
    simpa [h.grown.isMerge] using hfirst
  have hgrown : Grown g (l.graph.withContent n (.mapping (own ++ rest))) :=
    h.grown.withContent hes fun e' he' _ => by
      rw [← hsplit]
      exact (List.mem_append.mp he').elim (List.mem_append_left _)
        fun hrest => List.mem_append_right _ (List.mem_cons_of_mem _ hrest)
  have hcount : own.countP g.isMerge + rest.countP g.isMerge + 1 ≤ few n := by
    have hle := h.merges_le n
    rw [h.grown.merges_eq, hes, Option.getD_some, ← hsplit, List.countP_append,
      List.countP_cons_of_pos he] at hle
    omega
  obtain ⟨t, hn⟩ := Graph.entries?_eq_some.mp hes
  refine ⟨⟨hgrown, fun m => ?_⟩, h.grown.size ▸ (Array.getElem?_eq_some_iff.mp hn).1, by omega⟩
  rw [Loading.withEntries, hgrown.merges_eq, Graph.entries?_withContent hes]
  by_cases hm : n = m
  · subst hm
    rw [if_pos rfl, Option.getD_some, List.countP_append, Function.update_self]
    omega
  · rw [if_neg hm, Function.update_of_ne (Ne.symm hm), ← h.grown.merges_eq]
    exact h.merges_le m

theorem merges_eq_zero {l : Loading} {n : Nat} {es : List (Nat × Nat)}
    (hes : l.graph.entries? n = some es)
    (hnone : es.dropWhile (fun e => !l.graph.isMerge e) = []) : l.graph.merges n = 0 := by
  rw [List.dropWhile_eq_nil_iff] at hnone
  rw [Graph.merges, hes, Option.getD_some, List.countP_eq_zero]
  exact fun e he => by simpa using hnone e he

theorem Of.mono {few few' : Nat → Nat} {l : Loading} (h : Of g few l) (hle : few ≤ few') :
    Of g few' l :=
  ⟨h.grown, fun n => (h.merges_le n).trans (hle n)⟩

/-- There is room for merges inside each other: what of it was taken is made up for by merges that
are no longer there. -/
def Roomy (g : Graph) (few : Nat → Nat) (room : Nat) : Prop :=
  mergeLimit + ∑ n ∈ Finset.range g.size, few n ≤ room + ∑ n ∈ Finset.range g.size, g.merges n

namespace Roomy

variable {room n : Nat}

theorem mono {few' : Nat → Nat} (h : Roomy g few room) (hle : few' ≤ few) : Roomy g few' room :=
  (Nat.add_le_add_left (Finset.sum_le_sum fun n _ => hle n) _).trans h

/-- A merge that was taken out of a node leaves room for the merges inside it. -/
theorem inside (h : Roomy g few (room + 1)) (hn : n < g.size) (hpos : 0 < few n) :
    Roomy g (Function.update few n (few n - 1)) room := by
  have hlt : ∑ m ∈ Finset.range g.size, Function.update few n (few n - 1) m <
      ∑ m ∈ Finset.range g.size, few m := by
    refine Finset.sum_lt_sum (fun m _ => ?_) ⟨n, Finset.mem_range.mpr hn, ?_⟩
    · by_cases hm : m = n
      · subst hm
        simp
      · rw [Function.update_of_ne hm]
    · rw [Function.update_self]
      omega
  unfold Roomy at h ⊢
  omega

end Roomy

/-- The merges of a mapping are all taken out. -/
theorem takeMerges_spec {room : Nat} {bring : Nat → Load (List (Nat × Nat))} (n left : Nat)
    (hbring : ∀ few, Roomy g few room → ∀ source, Brings g few (bring source))
    (hroom : Roomy g few (room + 1)) (hleft : few n ≤ left) :
    ⦃fun l => ⌜Of g few l⌝⦄ takeMerges bring n left
    ⦃post⟨fun es l => ⌜(Of g few l ∧ l.graph.merges n = 0) ∧ ∀ e ∈ es, g.isMerge e = false⌝,
      fun f => ⌜Stops g f⌝⟩⦄ := by
  induction left generalizing few with
  | zero =>
    intro l hl
    exact ⟨⟨hl, Nat.le_zero.mp ((hl.merges_le n).trans hleft)⟩, by simp⟩
  | succ left ih =>
    let few' := Function.update few n (few n - 1)
    have hle : few' ≤ few := update_le_self_iff.mpr (Nat.sub_le _ _)
    have hinside (source : Nat) :
        ⦃fun l => ⌜Of g few' l ∧ n < g.size ∧ 0 < few n⌝⦄ bring source
        ⦃post⟨fun es l => ⌜Of g few' l ∧ ∀ e ∈ es, g.isMerge e = false⌝, fun f => ⌜Stops g f⌝⟩⦄ :=
      fun l h => hbring few' (hroom.inside h.2.1 h.2.2) source l h.1
    have hleft' : few' n ≤ left := by
      simp only [few', Function.update_self]
      omega
    have htake := ih (hroom.mono hle) hleft'
    have hentries := @entriesOf_spec g few n
    mvcgen [takeMerges, hentries, hinside, htake, -entriesOf_spec]
    case vc2 =>
      rename_i l hl _ hnone
      exact ⟨⟨hl.1, merges_eq_zero hl.2 hnone⟩, by simp⟩
    case vc3 =>
      rename_i l hl _ _ _ _ hdrop _ _
      exact hl.1.withoutMerge hl.2 hdrop
    case vc4 => exact And.left ‹_›
    case vc5 =>
      rename_i _ _ hhere _ _ hlater
      refine ⟨⟨hlater.1.1.mono hle, hlater.1.2⟩, fun e he => ?_⟩
      exact (List.mem_append.mp he).elim (hhere.2 e) (hlater.2 e)

/-- A mapping without merges has none either with entries in front that do not merge. -/
theorem Of.prepended {l : Loading} {n : Nat} {own merged : List (Nat × Nat)} (h : Of g few l)
    (hnone : l.graph.merges n = 0) (hown : l.graph.entries? n = some own)
    (hmerged : ∀ e ∈ merged, g.isMerge e = false) :
    Of g few ((l.withNamedDefaults (merged ++ own)).withEntries n (merged ++ own)) ∧
      ∀ e ∈ merged ++ own, g.isMerge e = false := by
  have hfree : ∀ e ∈ merged ++ own, g.isMerge e = false := by
    intro e he
    rcases List.mem_append.mp he with he | he
    · exact hmerged e he
    · rw [h.grown.merges_eq, hown, Option.getD_some, List.countP_eq_zero] at hnone
      simpa using hnone e he
  have hentries : (l.graph.withNamedDefaults (merged ++ own)).entries? n = some own := by
    rw [Graph.entries?_withNamedDefaults, hown]
  have hnamed : ∀ e ∈ merged ++ own,
      (l.graph.withNamedDefaults (merged ++ own)).hasTag e.1 .default = true → e ∈ own :=
    fun e he hd => absurd hd (by simp [Graph.hasTag_withNamedDefaults he])
  have hgrown := (h.grown.withNamedDefaults (merged ++ own)).withContent hentries hnamed
  refine ⟨⟨hgrown, fun m => ?_⟩, hfree⟩
  rw [Loading.withEntries, Loading.withNamedDefaults, hgrown.merges_eq,
    Graph.entries?_withContent hentries]
  split
  · rw [Option.getD_some, List.countP_eq_zero.mpr fun e he => by simp [hfree e he]]
    exact Nat.zero_le _
  · rw [Graph.entries?_withNamedDefaults, ← h.grown.merges_eq]
    exact h.merges_le m

theorem brings_prepend {fewer : Nat → Nat} (hle : fewer ≤ few) {merged : List (Nat × Nat)} (n : Nat)
    (hmerged : ∀ e ∈ merged, g.isMerge e = false) :
    ⦃fun l => ⌜Of g fewer l ∧ l.graph.merges n = 0⌝⦄ prepend n merged
    ⦃post⟨fun es l => ⌜Of g few l ∧ ∀ e ∈ es, g.isMerge e = false⌝, fun f => ⌜Stops g f⌝⟩⦄ := by
  mvcgen [prepend, entriesOf, malformed, -Spec.throw_Except]
  · rename_i h _ hown _ _
    exact (h.1.mono hle).prepended h.2 hown hmerged
  · exact .inl rfl

theorem brings_brought {merge : Nat → Load (List (Nat × Nat))}
    (hmerge : ∀ n, Brings g few (merge n)) (source : Nat) :
      Brings g few (brought merge source) := by
  have hitems (items : List Nat) (later : List (Nat × Nat))
      (hlater : ∀ e ∈ later, g.isMerge e = false) :
      Brings g few (items.foldlM (fun later n => do
        discard (entriesOf n)
        return (← merge n) ++ later) later) := by
    induction items generalizing later with
    | nil => exact fun l hl => ⟨hl, hlater⟩
    | cons n items ih =>
      have hfirst : Brings g few (do
          discard (entriesOf n)
          return (← merge n) ++ later) := by
        mvcgen [hmerge]
        rename_i hhere
        exact ⟨hhere.1, fun e he => (List.mem_append.mp he).elim (hhere.2 e) (hlater e)⟩
      exact Triple.bind _ _ hfirst fun later' l h => ih later' h.2 l h.1
  have hnone := fun items => hitems items [] (by simp)
  have hno : Brings g few malformed := fun _ _ => .inl rfl
  mvcgen [brought, hmerge, hnone, hno, -keeps_malformed, -Spec.foldlM_list]

theorem brings_merge {room : Nat} (hroom : Roomy g few room) (n : Nat) :
    Brings g few (merge room n) := by
  induction room generalizing few n with
  | zero =>
    intro l _
    refine .inr (.inr ⟨rfl, .merges ?_⟩)
    unfold Roomy at hroom
    omega
  | succ room ih =>
    refine Triple.bind _ _ (entriesOf_spec n) fun own l h => ?_
    let fewer := Function.update few n (own.countP g.isMerge)
    have hcount : own.countP g.isMerge ≤ few n := by
      simpa [h.1.grown.merges_eq, h.2] using h.1.merges_le n
    have hle : fewer ≤ few := update_le_self_iff.mpr hcount
    have hfewer : Of g fewer l := by
      refine ⟨h.1.grown, fun m => ?_⟩
      by_cases hm : m = n
      · subst hm
        simp [fewer, h.1.grown.merges_eq, h.2]
      · rw [show fewer m = few m from Function.update_of_ne hm _ _]
        exact h.1.merges_le m
    have htake := takeMerges_spec n own.length
      (fun few' hroom' => brings_brought fun m => ih hroom' m) (hroom.mono hle)
      (by simpa [fewer] using List.countP_le_length)
    have hrest : ⦃fun l => ⌜Of g fewer l⌝⦄
        (takeMerges (brought (merge room)) n own.length >>= prepend n)
        ⦃post⟨fun es l => ⌜Of g few l ∧ ∀ e ∈ es, g.isMerge e = false⌝, fun f => ⌜Stops g f⌝⟩⦄ :=
      Triple.bind _ _ htake fun merged l h => brings_prepend hle n h.2 l h.1
    exact hrest l hfewer

theorem roomy_merges (g : Graph) : Roomy g g.merges mergeLimit :=
  le_rfl

@[spec]
theorem keeps_readEntries (n : Nat) : Keeps g g.merges (readEntries n) := by
  have hbrings := brings_merge (roomy_merges g) n
  have hmerge : Keeps g g.merges (merge mergeLimit n) := by
    mvcgen [hbrings]
    exact fun h _ => h
  unfold readEntries
  refine keeps_bind hmerge fun es => ?_
  refine keeps_foldlM (fun read e => ?_) [] es
  mvcgen

@[spec]
theorem keeps_readPair (n : Nat) : Keeps g g.merges (readPair n) := by
  mvcgen [readPair]
  all_goals exact And.left ‹_›

@[spec]
theorem keeps_read (n : Nat) : Keeps g g.merges (read n) := by
  have hitems := keeps_forM (@keeps_reach g g.merges)
  have hpairs := keeps_mapM (@keeps_readPair g)
  mvcgen [read, hitems, hpairs]

@[spec]
theorem keeps_readFrom (place fuel : Nat) : Keeps g g.merges (readFrom place fuel) := by
  induction fuel generalizing place with
  | zero => mvcgen [readFrom]
  | succ fuel ih => mvcgen [readFrom, ih]

theorem keeps_readAll (root : Nat) : Keeps g g.merges (readAll root) := by
  mvcgen [readAll]

/-- The loading of a graph from one of its nodes on, with nothing read. -/
def start (g : Graph) : Loading :=
  { graph := g, objects := Array.replicate g.size none }

/-- The loading of a graph stops for a document that is none, or for a node that spells no value. -/
theorem stops_readAll {root : Nat} {f : Fault}
    (h : StateT.run (readAll root) (start g) = .error f) : Stops g f := by
  have hkeeps := keeps_readAll root (start g) ⟨Grown.refl g, fun _ => le_rfl⟩
  change ((wp (StateT.run (readAll root) (start g))).apply _).down at hkeeps
  rw [h] at hkeeps
  exact hkeeps

end Load

/-- Why a text that is no malformed YAML has no value, and what is wrong with it then. -/
inductive Fails (cs : List Char) : Fault → Prop
  | character {s : ScalarFault} (h : Graph.ofChars? cs = .error (.scalar s))
      (hn : Misnumbers cs s) : Fails cs (.scalar s)
  | depth (h : Graph.ofChars? cs = .error .tooDeep)
      (hn : depthLimit < (tokens cs).1.countP Compose.opens) : Fails cs .tooDeep
  | node {g : Graph} {root : Nat} {f : Fault} (hg : Graph.ofChars? cs = .ok (some (g, root)))
      (h : StateT.run (Load.readAll root) (Load.start g) = .error f) (hn : Misspells g f) :
      Fails cs f
  | stack {g : Graph} {root : Nat} (hg : Graph.ofChars? cs = .ok (some (g, root)))
      (h : StateT.run (Load.readAll root) (Load.start g) = .error .tooDeep) (hn : Deepens g) :
      Fails cs .tooDeep

/-- A text is refused for another reason than its form just when a character, the depth or a scalar
of it is at fault, or what it hands on or merges. -/
theorem load_eq_error {cs : List Char} {f : Fault} (hf : f ≠ .malformed) :
    load cs = .error f ↔ Fails cs f := by
  constructor
  · intro h
    rcases bind_eq_error h with h | ⟨found, hg, h⟩
    · rcases Graph.stops_ofChars? h with (hm | ⟨s, rfl, hn⟩) | ⟨rfl, hn⟩
      · exact absurd hm hf
      · exact .character h hn
      · exact .depth h hn
    · cases found with
      | none => cases h
      | some found =>
        obtain ⟨g, root⟩ := found
        rcases bind_eq_error h with h | ⟨_, -, h⟩
        · rcases (Load.stops_readAll h).resolve_left hf with hn | ⟨rfl, hn⟩
          · exact .node hg h hn
          · exact .stack hg h hn
        · cases h
  · rintro (⟨h, -⟩ | ⟨h, -⟩ | ⟨hg, h, -⟩ | ⟨hg, h, -⟩)
    · rw [load, h]
      rfl
    · rw [load, h]
      rfl
    all_goals
      rw [load, hg]
      change (StateT.run (Load.readAll _) (Load.start _) >>= _) = _
      rw [h]
      rfl

end SchemaIntents.Yaml
