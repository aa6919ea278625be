import Mathlib
import SchemaIntents.Yaml.Lexer

/-! Scanning a YAML text: every scanner leaves off inside the text, and where one stops for more
than the form of the text, a character is given by a number that no character has. -/
namespace SchemaIntents.Yaml

open Std.Do

set_option mvcgen.warning false

/-- A character of a text is given by the digits of a number that no character has. -/
inductive Misnumbers (text : List Char) : ScalarFault → Prop
  | mk {letter : Char} {count : Nat} {ds rest : List Char}
      (hcode : (letter, count) ∈ Scan.codeLengths) (hlen : ds.length = count)
      (hhex : ds.all Scan.isHex = true) (hn : 0x10FFFF < Numeral.ofDigits 16 ds)
      (htext : '\\' :: letter :: (ds ++ rest) <:+ text) :
      Misnumbers text
        (if 0x7FFFFFFF < Numeral.ofDigits 16 ds then .largeCharacter else .noCharacter)

variable {text : List Char}

namespace Scan

/-- A place in a text: what follows it ends the text. -/
structure Inside (text : List Char) (c : Cursor) : Prop where
  suffix : c.rest <:+ text

/-- Why a scanner of a text may stop. -/
def Stops (text : List Char) (f : Fault) : Prop :=
  f = .malformed ∨ ∃ s, f = .scalar s ∧ Misnumbers text s

/-- A scanner stays in a text: it leaves off at a place in it, or stops for what is wrong with
it. -/
abbrev Stays (text : List Char) {α : Type} (s : Scan α) : Prop :=
  ⦃fun c => ⌜Inside text c⌝⦄ s ⦃post⟨fun _ c => ⌜Inside text c⌝, fun f => ⌜Stops text f⌝⟩⦄

theorem rest_next (c : Cursor) : c.next.rest = c.rest.drop 1 := by
  cases hc : c.rest with
  | nil => simp [Cursor.next, hc]
  | cons ch rest =>
    simp only [Cursor.next, hc]
    split
    · rfl
    split <;> rfl

theorem rest_advance (n : Nat) (c : Cursor) : (c.advance n).rest = c.rest.drop n := by
  induction n generalizing c with
  | zero => rfl
  | succ n ih => rw [Cursor.advance, ih, rest_next, List.drop_drop, Nat.add_comm]

/-- The character that is next comes before what follows it. -/
theorem rest_eq_cons {c : Cursor} {ch : Char} (h : c.rest.head? = some ch) :
    c.rest = ch :: (c.advance 1).rest := by
  rw [rest_advance]
  cases hc : c.rest with
  | nil => simp [hc] at h
  | cons d rest => simp_all

theorem Inside.advance {c : Cursor} (h : Inside text c) (n : Nat) : Inside text (c.advance n) :=
  ⟨rest_advance n c ▸ (List.drop_suffix n c.rest).trans h.suffix⟩

theorem Inside.of_cons {c : Cursor} {ch : Char} {cs : List Char} (h : ch :: cs <:+ text)
    (hc : c.rest <:+ cs) : Inside text c :=
  ⟨hc.trans ((List.suffix_cons ch cs).trans h)⟩

@[spec]
theorem stays_malformed {α : Type} : Stays text (malformed : Scan α) := by
  intro c _
  exact .inl rfl

@[spec]
theorem stays_forward (n : Nat) : Stays text (forward n) := by
  mvcgen [forward]
  exact Inside.advance ‹_› n

@[spec]
theorem stays_run (p : Char → Bool) : Stays text (run p) := by
  mvcgen [run]

theorem Stays.discard {α : Type} {s : Scan α} (h : Stays text s) : Stays text (discard s) := by
  have hbind : Stays text (s >>= fun _ => pure ()) := by mvcgen [h]
  exact hbind

theorem Stays.map {α β : Type} {s : Scan α} (f : α → β) (h : Stays text s) :
    Stays text (f <$> s) := by
  mvcgen [h]

@[spec]
theorem stays_skip (p : Char → Bool) : Stays text (skip p) :=
  (stays_run p).discard

@[spec]
theorem stays_skipSpaces : Stays text skipSpaces :=
  stays_skip _

@[spec]
theorem stays_lineBreak : Stays text lineBreak := by
  mvcgen [lineBreak, peek]

@[spec]
theorem stays_discard_lineBreak : Stays text (Functor.discard lineBreak) :=
  stays_lineBreak.discard

@[spec]
theorem stays_quotedBreaks (fuel : Nat) : Stays text (quotedBreaks fuel) := by
  induction fuel with
  | zero => mvcgen [quotedBreaks]
  | succ fuel ih => mvcgen [quotedBreaks, ih]

@[spec]
theorem stays_quotedGap : Stays text quotedGap := by
  mvcgen [quotedGap, peek, bound]

/-- Digits whose number no character has are wrong with the text. -/
theorem stops_code {letter : Char} {count : Nat} {c : Cursor}
    (hcode : (letter, count) ∈ codeLengths) (hc : '\\' :: letter :: c.rest <:+ text)
    (hd : ¬((c.rest.take count).length < count || !(c.rest.take count).all isHex) = true)
    (hn : 0x10FFFF < Numeral.ofDigits 16 (c.rest.take count)) :
    Stops text (.scalar (if 0x7FFFFFFF < Numeral.ofDigits 16 (c.rest.take count) then
      .largeCharacter else .noCharacter)) := by
  simp only [Bool.or_eq_true, decide_eq_true_eq, Bool.not_eq_true', not_or, Bool.not_eq_false] at hd
  have hlen : (c.rest.take count).length = count := by
    have := List.length_take_le count c.rest
    omega
  have htext : '\\' :: letter :: (c.rest.take count ++ c.rest.drop count) <:+ text := by
    rwa [List.take_append_drop]
  exact .inr ⟨_, rfl, .mk hcode hlen hd.2 hn htext⟩

/-- After the backslash and the letter of a code only its number can be wrong. -/
theorem stays_codePoint {letter : Char} {count : Nat} (hcode : (letter, count) ∈ codeLengths) :
    ⦃fun c => ⌜ '\\' :: letter :: c.rest <:+ text⌝⦄ codePoint count
    ⦃post⟨fun _ c => ⌜Inside text c⌝, fun f => ⌜Stops text f⌝⟩⦄ := by
  have inside {c : Cursor} (h : '\\' :: letter :: c.rest <:+ text) : Inside text c :=
    .of_cons h (List.suffix_cons letter c.rest)
  mvcgen [codePoint, hexNumber, forward, malformed, -Spec.throw_Except]
  · exact .inl rfl
  · have h := stops_code hcode ‹_› ‹_› (Nat.lt_trans (by decide) ‹0x7FFFFFFF < _›)
    rwa [if_pos ‹_›] at h
  · have h := stops_code hcode ‹_› ‹_› ‹_›
    rwa [if_neg ‹_›] at h
  · exact (inside ‹_›).advance count

theorem mem_of_lookup {α β : Type} [BEq α] [LawfulBEq α] {es : List (α × β)} {a : α} {b : β}
    (h : es.lookup a = some b) : (a, b) ∈ es := by
  induction es with
  | nil => cases h
  | cons e es ih =>
    rw [List.lookup_cons] at h
    split at h
    · rename_i heq
      cases h
      simp_all
    · exact List.mem_cons_of_mem _ (ih h)

theorem stays_escape :
    ⦃fun c => ⌜ '\\' :: c.rest <:+ text⌝⦄ escape
    ⦃post⟨fun _ c => ⌜Inside text c⌝, fun f => ⌜Stops text f⌝⟩⦄ := by
  have inside {c : Cursor} (h : '\\' :: c.rest <:+ text) : Inside text c :=
    .of_cons h List.suffix_rfl
  have hcode := @stays_codePoint text
  mvcgen [escape, peek, forward, bound, hcode]
  · exact inside ‹_›
  · exact (inside ‹_›).advance 1
  · exact mem_of_lookup ‹_›
  · rw [← rest_eq_cons ‹_›]
    assumption
  · exact inside ‹_›
  · exact inside ‹_›

@[spec]
theorem stays_quotedWord (double : Bool) (fuel : Nat) : Stays text (quotedWord double fuel) := by
  have hescape := @stays_escape text
  induction fuel with
  | zero => mvcgen [quotedWord]
  | succ fuel ih =>
    mvcgen [quotedWord, peek, peekAt, forward, hescape, ih]
    · exact Inside.advance ‹_› 1
    · exact Inside.advance ‹_› 2
    · exact Inside.advance ‹_› 1
    · rw [← rest_eq_cons ‹_›]
      exact Inside.suffix ‹_›
    · exact Inside.advance ‹_› 1

@[spec]
theorem stays_quotedRest (double : Bool) (fuel : Nat) : Stays text (quotedRest double fuel) := by
  induction fuel with
  | zero => exact stays_malformed
  | succ fuel ih => mvcgen [quotedRest, peek, bound, ih]

theorem stays_quoted (double : Bool) : Stays text (quoted double) := by
  mvcgen [quoted, bound]

@[spec]
theorem stays_plainBreaks (fuel : Nat) : Stays text (plainBreaks fuel) := by
  induction fuel with
  | zero => mvcgen [plainBreaks]
  | succ fuel ih => mvcgen [plainBreaks, ih]

@[spec]
theorem stays_plainGap : Stays text plainGap := by
  mvcgen [plainGap, bound]

@[spec]
theorem stays_plainRest (inFlow : Bool) (indent : Int) (broken : Bool) (gap : List Char)
    (fuel : Nat) : Stays text (plainRest inFlow indent broken gap fuel) := by
  induction fuel generalizing broken gap with
  | zero => mvcgen [plainRest]
  | succ fuel ih => mvcgen [plainRest, peek, ih]

theorem stays_plain (inFlow : Bool) (indent : Int) : Stays text (plain inFlow indent) := by
  mvcgen [plain, bound]

@[spec]
theorem stays_blockHead : Stays text blockHead := by
  mvcgen [blockHead, chomping?, increment?, peek]

@[spec]
theorem stays_restOfLine : Stays text restOfLine := by
  mvcgen [restOfLine, peek]

@[spec]
theorem stays_leadingBreaks (deepest fuel : Nat) : Stays text (leadingBreaks deepest fuel) := by
  induction fuel generalizing deepest with
  | zero => mvcgen [leadingBreaks]
  | succ fuel ih => mvcgen [leadingBreaks, ih]

@[spec]
theorem stays_blockBreaks (indent fuel : Nat) : Stays text (blockBreaks indent fuel) := by
  induction fuel with
  | zero => mvcgen [blockBreaks]
  | succ fuel ih => mvcgen [blockBreaks, indentTo, ih]

@[spec]
theorem stays_blockLines (folded : Bool) (indent : Nat) (breaks : List Char) (fuel : Nat) :
    Stays text (blockLines folded indent breaks fuel) := by
  induction fuel generalizing breaks with
  | zero => mvcgen [blockLines]
  | succ fuel ih => mvcgen [blockLines, bound, ih]

theorem stays_block (folded : Bool) (outer : Int) : Stays text (block folded outer) := by
  mvcgen [block, bound]

theorem stays_anchorName : Stays text anchorName := by
  -- the test of the character after the name is a long one; any would do
  have hname (p : Option Char → Bool) : Stays text (do
      forward 1
      let name ← run isNameChar
      if name.isEmpty then malformed
      let next ← peek
      if !p next then malformed
      return String.ofList name) := by
    mvcgen [peek]
  exact hname _

@[spec]
theorem stays_tagHandle : Stays text tagHandle := by
  mvcgen [tagHandle, peek]

@[spec]
theorem stays_escapedBytes (fuel : Nat) : Stays text (escapedBytes fuel) := by
  induction fuel with
  | zero => mvcgen [escapedBytes]
  | succ fuel ih => mvcgen [escapedBytes, peek, ih]

@[spec]
theorem stays_tagChars (fuel : Nat) : Stays text (tagChars fuel) := by
  induction fuel with
  | zero => mvcgen [tagChars]
  | succ fuel ih => mvcgen [tagChars, peek, bound, ih]

@[spec]
theorem stays_tagText : Stays text tagText := by
  mvcgen [tagText, bound]

theorem stays_tag : Stays text tag := by
  mvcgen [tag, peek]

@[spec]
theorem stays_versionNumber : Stays text versionNumber := by
  mvcgen [versionNumber]

@[spec]
theorem stays_discard_versionNumber : Stays text (Functor.discard versionNumber) :=
  stays_versionNumber.discard

@[spec]
theorem stays_versionDirective : Stays text versionDirective := by
  mvcgen [versionDirective, peek]

@[spec]
theorem stays_tagDirective : Stays text tagDirective := by
  mvcgen [tagDirective, peek]

theorem stays_directive : Stays text directive := by
  mvcgen [directive, peek]

end Scan

namespace Lexer

open Scan

/-- What becomes of a lexer stays in a text. -/
abbrev Stays (text : List Char) (l : Lexer) (next : Except Fault Lexer) : Prop :=
  ⦃⌜Inside text l.cursor⌝⦄ next
  ⦃post⟨fun m => ⌜Inside text m.cursor⌝, fun f => ⌜Scan.Stops text f⌝⟩⦄

theorem stays_dropStaleKeys (l : Lexer) : Stays text l l.dropStaleKeys := by
  mvcgen [dropStaleKeys, -Spec.throw_Except]
  exact .inl rfl

@[spec]
theorem stays_dropKey (l : Lexer) : Stays text l l.dropKey := by
  mvcgen [dropKey, -Spec.throw_Except]
  exact .inl rfl

@[spec]
theorem stays_noteKey (l : Lexer) : Stays text l l.noteKey := by
  mvcgen [noteKey]

theorem inside_unwind {l : Lexer} (h : Inside text l.cursor) (column : Int) :
    Inside text (l.unwind column).cursor := by
  unfold unwind
  split <;> exact h

theorem inside_openBlock {l : Lexer} {p : Prop} [Decidable p] {column position : Nat} {t : Token}
    (h : Inside text l.cursor) :
    Inside text (if p then l.openBlock column position t else l).cursor := by
  unfold openBlock
  split
  · split <;> exact h
  · exact h

@[spec]
theorem stays_closing (l : Lexer) : Stays text l l.closing := by
  mvcgen [closing]
  exact inside_unwind ‹_› _

theorem stays_openFlow (t : Token) (l : Lexer) : Stays text l (l.openFlow t) := by
  mvcgen [openFlow]
  exact Inside.advance ‹_› 1

theorem stays_closeFlow (t : Token) (l : Lexer) : Stays text l (l.closeFlow t) := by
  mvcgen [closeFlow, -Spec.throw_Except]
  · exact .inl rfl
  · exact Inside.advance ‹_› 1

theorem stays_flowEntry (l : Lexer) : Stays text l l.flowEntry := by
  mvcgen [flowEntry]
  exact Inside.advance ‹_› 1

theorem stays_blockEntry (l : Lexer) : Stays text l l.blockEntry := by
  mvcgen [blockEntry, -Spec.throw_Except]
  · exact .inl rfl
  · exact inside_openBlock ‹_›
  · exact Inside.advance ‹_› 1

theorem stays_explicitKey (l : Lexer) : Stays text l l.explicitKey := by
  mvcgen [explicitKey, -Spec.throw_Except]
  · exact .inl rfl
  · exact inside_openBlock ‹_›
  · exact Inside.advance ‹_› 1

theorem stays_value (l : Lexer) : Stays text l l.value := by
  mvcgen [value, -Spec.throw_Except]
  · exact (inside_openBlock ‹_›).advance 1
  · exact .inl rfl
  · exact inside_openBlock ‹_›
  · exact Inside.advance ‹_› 1

/-- A lexer stays in a text with a scanner that does. -/
theorem stays_scanning {α : Type} {s : Scan α} (hs : Scan.Stays text s) (l : Lexer) :
    ⦃⌜Inside text l.cursor⌝⦄ l.scanning s
    ⦃post⟨fun a => ⌜Inside text a.2.cursor⌝, fun f => ⌜Scan.Stops text f⌝⟩⦄ := by
  intro h
  have hrun := hs l.cursor h
  unfold scanning
  change ((wp (StateT.run s l.cursor >>= fun a => pure (a.1, { l with cursor := a.2 }))).apply
    _).down
  change ((wp (StateT.run s l.cursor)).apply _).down at hrun
  cases hs : StateT.run s l.cursor <;> rw [hs] at hrun <;> exact hrun

theorem stays_leaf {s : Scan Token} (hs : Scan.Stays text s) (l : Lexer) :
    Stays text l (l.leaf s) := by
  have hscan := stays_scanning hs
  mvcgen [leaf, hscan]

theorem stays_plainScalar (l : Lexer) : Stays text l l.plainScalar := by
  have hscan (inFlow : Bool) (indent : Int) :=
    stays_scanning (@Scan.stays_plain text inFlow indent)
  mvcgen [plainScalar, hscan]

theorem stays_blockScalar (folded : Bool) (l : Lexer) : Stays text l (l.blockScalar folded) := by
  have hscan (indent : Int) := stays_scanning (@Scan.stays_block text folded indent)
  mvcgen [blockScalar, hscan]

theorem stays_ite {l : Lexer} {p : Prop} [Decidable p] {a b : Except Fault Lexer}
    (ha : Stays text l a) (hb : Stays text l b) : Stays text l (if p then a else b) := by
  split <;> assumption

theorem stays_token (c : Char) (l : Lexer) : Stays text l (l.token c) := by
  have hdirective := stays_scanning (@Scan.stays_directive text)
  refine stays_ite ?directive <| stays_ite ?start <| stays_ite ?ends <|
    stays_ite (stays_openFlow _ l) <| stays_ite (stays_openFlow _ l) <|
    stays_ite (stays_closeFlow _ l) <| stays_ite (stays_closeFlow _ l) <|
    stays_ite (stays_flowEntry l) <| stays_ite (stays_blockEntry l) <|
    stays_ite (stays_explicitKey l) <| stays_ite (stays_value l) <|
    stays_ite (stays_leaf (stays_anchorName.map _) l) <|
    stays_ite (stays_leaf (stays_anchorName.map _) l) <| stays_ite (stays_leaf stays_tag l) <|
    stays_ite (stays_blockScalar _ l) <| stays_ite (stays_blockScalar _ l) <|
    stays_ite (stays_leaf ((stays_quoted _).map _) l) <|
    stays_ite (stays_leaf ((stays_quoted _).map _) l) <|
    stays_ite (stays_plainScalar l) fun _ => .inl rfl
  case directive => mvcgen [hdirective]
  case start =>
    mvcgen
    exact Inside.advance ‹_› 3
  case ends =>
    mvcgen
    exact Inside.advance ‹_› 3

theorem inside_toNextToken (fuel : Nat) (l : Lexer) (h : Inside text l.cursor) :
    Inside text (l.toNextToken fuel).cursor := by
  induction fuel generalizing l with
  | zero => exact h
  | succ fuel ih =>
    rw [toNextToken]
    have hspaces := h.advance (l.cursor.rest.takeWhile (· == ' ')).length
    generalize l.cursor.advance (l.cursor.rest.takeWhile (· == ' ')).length = c at hspaces ⊢
    have hcomment : Inside text (if c.rest.head? == some '#' then
        c.advance (c.rest.takeWhile fun d => !isBreak d).length else c) := by
      split
      · exact hspaces.advance _
      · exact hspaces
    generalize (if c.rest.head? == some '#' then
      c.advance (c.rest.takeWhile fun d => !isBreak d).length else c) = c at hcomment ⊢
    split
    · split
      · exact ih _ (hcomment.advance 1)
      · exact hcomment
    · exact hcomment

/-- One token on, a lexer is still in the text. -/
theorem stays_step (l : Lexer) :
    ⦃⌜Inside text l.cursor⌝⦄ l.step
    ⦃post⟨fun m => ⌜Inside text m.1.cursor⌝, fun f => ⌜Scan.Stops text f⌝⟩⦄ := by
  have hstale := @stays_dropStaleKeys text
  have htoken := @stays_token text
  mvcgen [step, hstale, htoken]
  · exact inside_toNextToken _ l ‹_›
  · exact inside_unwind ‹_› _
  · exact inside_unwind ‹_› _

/-- Where a lexer stops before the end, the reason is in the text. -/
theorem stops_rest (fuel : Nat) (l : Lexer) (h : Inside text l.cursor) :
    ∀ f ∈ (l.rest fuel).2, Scan.Stops text f := by
  induction fuel generalizing l with
  | zero =>
    rintro f ⟨⟩
    exact .inl rfl
  | succ fuel ih =>
    have hstep := stays_step l h
    rw [rest]
    cases hs : l.step with
    | error e =>
      rw [hs] at hstep
      rintro f ⟨⟩
      exact hstep
    | ok next =>
      rw [hs] at hstep
      obtain ⟨next, ended⟩ := next
      cases ended with
      | true => simp
      | false => exact ih next hstep

end Lexer

/-- Where the tokens of a text end early, the reason is in the text. -/
theorem stops_tokens {cs : List Char} {f : Fault} (h : (tokens cs).2 = some f) :
    Scan.Stops cs f := by
  unfold tokens at h
  split at h
  · refine Lexer.stops_rest _ _ ⟨?_⟩ f h
    unfold Lexer.start
    split
    · exact List.suffix_cons _ _
    · exact List.suffix_rfl
  · cases h
    exact .inl rfl

end SchemaIntents.Yaml
