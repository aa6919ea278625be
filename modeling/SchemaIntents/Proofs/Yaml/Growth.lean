import Mathlib.Algebra.BigOperators.Group.Finset.Basic
import Mathlib.Order.Interval.Finset.Nat
import SchemaIntents.Yaml.Load

/-! What becomes of the graph of a document while it is loaded. Marks of a default become texts and
mappings take in what they merge, but nothing new is handed on or merged. -/
namespace SchemaIntents.Yaml

/-- A mapping hands what it stands for on to the value of a default among its entries. -/
def Graph.Hands (g : Graph) (n m : Nat) : Prop :=
  ∃ entries k, g.entries? n = some entries ∧ (k, m) ∈ entries ∧ g.hasTag k .default = true

/-- How many entries of a node merge another mapping into it. -/
def Graph.merges (g : Graph) (n : Nat) : Nat :=
  ((g.entries? n).getD []).countP g.isMerge

/-- What becomes of a node while its graph is loaded: a mark of a default may become a text, and a
mapping may have other entries. -/
structure Later (node node' : Node) : Prop where
  tag : node'.tag = node.tag ∨ node.tag = .default ∧ node'.tag = .text
  content : node'.content = node.content ∨
    ∃ es es', node.content = .mapping es ∧ node'.content = .mapping es'

/-- What becomes of a graph while it is loaded. Of the entries of a mapping those with the mark of a
default were there from the first. -/
structure Grown (g g' : Graph) : Prop where
  size : g'.size = g.size
  later : ∀ (n : Nat) (node' : Node), g'[n]? = some node' → ∃ node, g[n]? = some node ∧
    Later node node'
  defaults : ∀ n es', g'.entries? n = some es' → ∀ e ∈ es', g'.hasTag e.1 .default = true →
    ∃ es, g.entries? n = some es ∧ e ∈ es

namespace Graph

variable {g : Graph} {n m : Nat} {t : Tag} {es : List (Nat × Nat)}

theorem hasTag_eq_true : g.hasTag n t = true ↔ ∃ c, g[n]? = some ⟨t, c⟩ := by
  rw [hasTag]
  cases h : g[n]? with
  | none => simp
  | some node => cases node; simp

theorem entries?_eq_some : g.entries? n = some es ↔ ∃ t, g[n]? = some ⟨t, .mapping es⟩ := by
  unfold entries?
  constructor
  · intro h
    split at h
    · rename_i t entries hn
      cases h
      exact ⟨t, hn⟩
    · cases h
  · rintro ⟨t, h⟩
    rw [h]

@[simp]
theorem size_withContent (c : Content) : (g.withContent n c).size = g.size := by
  simp [withContent]

@[simp]
theorem size_withTag : (g.withTag n t).size = g.size := by
  simp [withTag]

@[simp]
theorem hasTag_withContent (c : Content) : (g.withContent n c).hasTag m t = g.hasTag m t := by
  rw [hasTag, hasTag, withContent, Array.getElem?_modify]
  split
  · exact Option.any_map
  · rfl

@[simp]
theorem entries?_withTag : (g.withTag n t).entries? m = g.entries? m := by
  unfold entries? withTag
  rw [Array.getElem?_modify]
  by_cases h : n = m
  · rw [if_pos h]
    cases g[m]? with
    | none => rfl
    | some node => obtain ⟨_, c⟩ := node; cases c <;> rfl
  · rw [if_neg h]

theorem default_of_withTag (h : (g.withTag n .text).hasTag m .default = true) :
    g.hasTag m .default = true := by
  rw [hasTag, withTag, Array.getElem?_modify] at h
  split at h
  · rw [Option.any_map] at h
    simp at h
  · exact h

theorem entries?_withContent (h : g.entries? n = some es) (es' : List (Nat × Nat)) :
    (g.withContent n (.mapping es')).entries? m = if n = m then some es' else g.entries? m := by
  obtain ⟨t, hn⟩ := entries?_eq_some.mp h
  split
  · rename_i hnm
    subst hnm
    rw [entries?_eq_some]
    exact ⟨t, by rw [withContent, Array.getElem?_modify, if_pos rfl, hn]; rfl⟩
  · rename_i hnm
    unfold entries? withContent
    rw [Array.getElem?_modify, if_neg hnm]

@[simp]
theorem entries?_withNamedDefaults (es : List (Nat × Nat)) :
    (g.withNamedDefaults es).entries? n = g.entries? n := by
  induction es generalizing g with
  | nil => rfl
  | cons e es ih =>
    refine ih.trans ?_
    dsimp only
    split
    · exact entries?_withTag
    · rfl

theorem default_of_withNamedDefaults (h : (g.withNamedDefaults es).hasTag n .default = true) :
    g.hasTag n .default = true := by
  induction es generalizing g with
  | nil => exact h
  | cons e es ih =>
    have hstep := ih h
    dsimp only at hstep
    split at hstep
    · exact default_of_withTag hstep
    · exact hstep

/-- None of the keys has the mark of a default any more. -/
theorem hasTag_withNamedDefaults {e : Nat × Nat} (he : e ∈ es) :
    (g.withNamedDefaults es).hasTag e.1 .default = false := by
  rw [Bool.eq_false_iff]
  intro h
  induction es generalizing g with
  | nil => cases he
  | cons e' es ih =>
    rcases List.mem_cons.mp he with rfl | he
    · rw [withNamedDefaults, List.foldl_cons] at h
      have hstep := default_of_withNamedDefaults h
      split at hstep
      · rw [hasTag, withTag, Array.getElem?_modify, if_pos rfl, Option.any_map] at hstep
        simp at hstep
      · exact absurd hstep ‹_›
    · exact ih he h

theorem hands_of_default? (h : g.default? n = some m) : g.Hands n m := by
  obtain ⟨es, hes, h⟩ := Option.bind_eq_some_iff.mp h
  obtain ⟨e, hfound, h⟩ := Option.bind_eq_some_iff.mp h
  cases h
  exact ⟨es, e.1, hes, List.mem_of_find?_eq_some hfound,
    List.find?_some (p := fun e : Nat × Nat => g.hasTag e.1 .default) hfound⟩

end Graph

namespace Grown

variable {g g' : Graph} {n m : Nat} {es es' : List (Nat × Nat)}

theorem refl (g : Graph) : Grown g g :=
  ⟨rfl, fun _ node' h => ⟨node', h, .inl rfl, .inl rfl⟩, fun _ es' h _ he _ => ⟨es', h, he⟩⟩

/-- A mark of a default was one from the first. -/
theorem default (h : Grown g g') (hn : g'.hasTag n .default = true) :
    g.hasTag n .default = true := by
  obtain ⟨c, hc⟩ := Graph.hasTag_eq_true.mp hn
  obtain ⟨⟨t, c'⟩, hnode, hlater⟩ := h.later n _ hc
  rcases hlater.tag with hsame | ⟨-, htext⟩
  · exact Graph.hasTag_eq_true.mpr ⟨c', by rw [hnode, ← show Tag.default = t from hsame]⟩
  · cases htext

/-- The same entries merge. -/
theorem isMerge (h : Grown g g') (e : Nat × Nat) : g'.isMerge e = g.isMerge e := by
  rw [Bool.eq_iff_iff, Graph.isMerge, Graph.isMerge, Graph.hasTag_eq_true, Graph.hasTag_eq_true]
  constructor
  · rintro ⟨c, hc⟩
    obtain ⟨⟨t, c'⟩, hnode, hlater⟩ := h.later e.1 _ hc
    rcases hlater.tag with hsame | ⟨-, htext⟩
    · exact ⟨c', by rw [hnode, ← show Tag.merge = t from hsame]⟩
    · cases htext
  · rintro ⟨c, hc⟩
    have hlt : e.1 < g'.size := h.size ▸ (Array.getElem?_eq_some_iff.mp hc).1
    obtain ⟨node, hnode, hlater⟩ := h.later e.1 _ (Array.getElem?_eq_getElem hlt)
    rw [hc] at hnode
    cases hnode
    rcases hlater.tag with hsame | ⟨hdefault, -⟩
    · have htag : g'[e.1].tag = Tag.merge := hsame
      exact ⟨g'[e.1].content, by rw [Array.getElem?_eq_getElem hlt, ← htag]⟩
    · cases hdefault

theorem merges_eq (h : Grown g g') (n : Nat) :
    g'.merges n = ((g'.entries? n).getD []).countP g.isMerge := by
  rw [Graph.merges]
  exact List.countP_congr fun e _ => by rw [h.isMerge]

theorem withTag (h : Grown g g') (hn : g'.hasTag n .default = true) :
    Grown g (g'.withTag n .text) := by
  refine ⟨by simpa using h.size, fun m node' hm => ?_, fun m es' hes' e he hd => ?_⟩
  · rw [Graph.withTag, Array.getElem?_modify] at hm
    split at hm
    · rename_i hnm
      subst hnm
      obtain ⟨before, hb, rfl⟩ := Option.map_eq_some_iff.mp hm
      obtain ⟨node, hnode, hlater⟩ := h.later n before hb
      obtain ⟨c, hc⟩ := Graph.hasTag_eq_true.mp hn
      rw [hb] at hc
      cases hc
      rcases hlater.tag with hsame | ⟨-, htext⟩
      · exact ⟨node, hnode, .inr ⟨hsame.symm, rfl⟩, hlater.content⟩
      · cases htext
    · exact h.later m node' hm
  · rw [Graph.entries?_withTag] at hes'
    exact h.defaults m es' hes' e he (Graph.default_of_withTag hd)

theorem withNamedDefaults (h : Grown g g') (es : List (Nat × Nat)) :
    Grown g (g'.withNamedDefaults es) := by
  induction es generalizing g' with
  | nil => exact h
  | cons e es ih =>
    refine ih ?_
    dsimp only
    split
    · exact h.withTag ‹_›
    · exact h

/-- A mapping may have other entries, if those with the mark of a default are its own. -/
theorem withContent (h : Grown g g') (he : g'.entries? n = some es)
    (hes : ∀ e ∈ es', g'.hasTag e.1 .default = true → e ∈ es) :
    Grown g (g'.withContent n (.mapping es')) := by
  obtain ⟨t, hn⟩ := Graph.entries?_eq_some.mp he
  refine ⟨by simpa using h.size, fun m node' hm => ?_, fun m es₂ hes₂ e hmem hd => ?_⟩
  · rw [Graph.withContent, Array.getElem?_modify] at hm
    split at hm
    · rename_i hnm
      subst hnm
      obtain ⟨before, hb, rfl⟩ := Option.map_eq_some_iff.mp hm
      obtain ⟨node, hnode, hlater⟩ := h.later n before hb
      rw [hb] at hn
      cases hn
      refine ⟨node, hnode, hlater.tag, .inr ?_⟩
      rcases hlater.content with hsame | ⟨old, _, hold, -⟩
      · exact ⟨es, es', hsame.symm, rfl⟩
      · exact ⟨old, es', hold, rfl⟩
    · exact h.later m node' hm
  · rw [Graph.hasTag_withContent] at hd
    rw [Graph.entries?_withContent he] at hes₂
    split at hes₂
    · rename_i hnm
      cases hes₂
      subst hnm
      exact h.defaults n es he e (hes e hmem hd) hd
    · exact h.defaults m es₂ hes₂ e hmem hd

/-- Nothing is handed on that was not from the first. -/
theorem hands (h : Grown g g') (hnm : g'.Hands n m) : g.Hands n m := by
  obtain ⟨es', k, hes', hmem, hk⟩ := hnm
  obtain ⟨es, hes, hin⟩ := h.defaults n es' hes' (k, m) hmem hk
  exact ⟨es, k, hes, hin, h.default hk⟩

/-- A scalar is the scalar that it was. -/
theorem scalar (h : Grown g g') {t : Tag} {s : String} (hn : g'[n]? = some ⟨t, .scalar s⟩) :
    ∃ t', g[n]? = some ⟨t', .scalar s⟩ := by
  obtain ⟨⟨t', c⟩, hnode, hlater⟩ := h.later n _ hn
  rcases hlater.content with hsame | ⟨_, _, -, hmapping⟩
  · dsimp only at hsame
    exact ⟨t', hsame ▸ hnode⟩
  · cases hmapping

end Grown

/-- The text of a node is that of a scalar, and its own if it is one. -/
theorem exists_scalar {g : Graph} {room n : Nat} {s : String} (h : g.textFrom room n = .ok s) :
    (∃ (m : Nat) (t : Tag), g[m]? = some ⟨t, .scalar s⟩) ∧
      ∀ (t : Tag) (own : String), g[n]? = some ⟨t, .scalar own⟩ → own = s := by
  induction room generalizing n with
  | zero => cases h
  | succ room ih =>
    rw [Graph.textFrom] at h
    split at h
    · rename_i t own hn
      cases h
      refine ⟨⟨n, t, hn⟩, fun t' own' hn' => ?_⟩
      rw [hn] at hn'
      cases hn'
      rfl
    · rename_i hno
      split at h
      · exact ⟨(ih h).1, fun t own hn => absurd hn (hno t own)⟩
      · cases h

/-- A node without a text is none that one is asked of, or hands its text on too often. -/
theorem exists_path {g : Graph} {room n : Nat} {f : Fault} (h : g.textFrom room n = .error f) :
    f = .malformed ∨
      f = .tooDeep ∧ ∃ path : List Nat, path.length = room ∧ (n :: path).IsChain g.Hands := by
  induction room generalizing n with
  | zero =>
    cases h
    exact .inr ⟨rfl, [], rfl, .singleton n⟩
  | succ room ih =>
    rw [Graph.textFrom] at h
    split at h
    · cases h
    · split at h
      · rename_i m hm
        refine (ih h).imp_right fun ⟨hf, path, hlen, hpath⟩ => ⟨hf, m :: path, by simp [hlen], ?_⟩
        exact .cons_cons (Graph.hands_of_default? hm) hpath
      · cases h
        exact .inl rfl

end SchemaIntents.Yaml
