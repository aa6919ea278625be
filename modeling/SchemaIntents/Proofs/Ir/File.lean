import SchemaIntents.Ir.File
import SchemaIntents.Proofs.Folder
import SchemaIntents.Proofs.Ir.Faithful
import SchemaIntents.Proofs.Json.Wholeness
import SchemaIntents.Proofs.Shape.Free
import SchemaIntents.Proofs.Text.Utf8

/-! Envelopes that are written to a file and loaded from it again. -/
namespace SchemaIntents

/-- What a JSON file holds is read as it was written. -/
theorem fileText_fileBytes {v : Value} {bytes : List UInt8} (h : Ir.fileBytes v = .ok bytes) :
    fileText bytes = .ok (Json.indented v ++ "\n").toList := by
  have line : Json.Shown "\n" := by decide
  have shown := Json.shown_append.mpr ⟨Json.shown_indented v, line⟩
  rw [fileText, Text.Utf8.read_of_write h]
  exact congrArg Except.ok (Json.unifyBreaks_eq_self shown)

namespace Ir

/-- A value from JSON can be written to a file unless a text in it has halves of pairs. -/
theorem exists_fileBytes {v : Value} (hv : v.IsJson) :
    (∃ bytes, fileBytes v = .ok bytes) ↔ v.isWhole = true := by
  have line : ∀ c ∈ ("\n").toList, c.toNat < 0xE000 := by simp
  have text : (Text.release? (Json.indented v ++ "\n").toList).isSome = true ↔
    v.isWhole = true := by
    rw [← Json.holdsOn_indentedAt hv 0, Text.isSome_release?, String.toList_append,
      ← List.append_nil ("\n").toList, Text.holdsOn_append_append line (by simp)]
    simp [Text.holdsOn, Json.indented]
  rw [← text, fileBytes, Text.Utf8.write]
  cases Text.release? (Json.indented v ++ "\n").toList <;> simp

open Instance Shape

/-- All models but those with values that may be anything, and those that lead to them. -/
def isBound : Name → Bool
  | .literalGenerator | .seed | .entity | .addEntity | .fileUploadOverlay | .capability |
    .addCapability => false
  | _ => true

theorem bound : Bound schema isBound := by
  intro n
  cases n <;> decide

theorem freeValues_eq {l : Nat} {n : Name} {v : Value} {x : Part}
    (h : Reads schema l (.model n) v x) : x.freeValues = x.freeValuesAs schema (.model n) := by
  cases h with
  | plain hp => simp [isPlain] at hp
  | model => rfl

/-- JSON can say an envelope as it is: it fits the schema, and JSON can say all that stands free in
it. -/
structure Part.Sayable (x : Part) : Prop where
  reads : ∃ v, Reads schema levelLimit envelope v x
  free : ∀ u ∈ x.freeValues, u.Sayable

/-- An envelope with the keys mended that it is written with. -/
def Part.mended (x : Part) : Part :=
  x.mendedAs schema envelope

theorem Part.Sayable.json_eq_dump {x : Part} {w : Value} (h : x.Sayable) (hw : x.json = .ok w) :
    w = x.mended.dump schema := by
  obtain ⟨v, hread⟩ := h.reads
  rw [Part.json, Instance.json] at hw
  split at hw
  · cases hw
  · obtain rfl := Except.ok.inj hw
    have same := @wireAs_eq_dump_mendedAs _ schema x envelope
    unfold envelope at hread same
    cases hread with
    | plain hp => simp [isPlain] at hp
    | tagged => exact same h.free

theorem entries_mendedAs (s : Shape Name) (x : Part) : (x.mendedAs schema s).entries =
    Value.mendKeys (x.entries.map fun e => (e.1, e.2.mendedAs schema s.part)) := by
  cases x with
  | table es =>
    rw [mendedAs, mendedEntries_eq]
    rfl
  | _ => rfl

/-- The seed generators of what is mended are mended, and stand at mended keys. -/
theorem exists_generatorEntries_mended (x : Part) : ∃ s, x.mended.generatorEntries =
    Value.mendKeys (x.generatorEntries.map fun e => (e.1, e.2.mendedAs schema s)) := by
  obtain ⟨s₁, h₁⟩ := field_mendedAs schema envelope x "entity"
  obtain ⟨s₂, h₂⟩ := field_mendedAs schema s₁ (x.field schema "entity") "seed"
  obtain ⟨s₃, h₃⟩ := field_mendedAs schema s₂
    ((x.field schema "entity").field schema "seed") "generator_by_field"
  refine ⟨s₃.part, ?_⟩
  simp only [Part.mended, Part.generatorEntries, Part.get, h₁, h₂, h₃, entries_mendedAs]

/-- The literals that are null are told by the keys that they are written with. -/
theorem nullLiterals_mended (x : Part) : x.mended.nullLiterals = x.nullLiterals := by
  obtain ⟨s, hgenerators⟩ := exists_generatorEntries_mended x
  have null (e : String × Part) : Part.isNullLiteral (e.2.mendedAs schema s) =
      Part.isNullLiteral e.2 := by
    obtain ⟨s₁, h₁⟩ := field_mendedAs schema s e.2 "kind"
    obtain ⟨s₂, h₂⟩ := field_mendedAs schema s e.2 "value"
    simp only [Part.isNullLiteral, Part.kind, Part.get, h₁, h₂, text_mendedAs, isNull_mendedAs]
  rw [Part.nullLiterals, Part.nullLiterals, Part.seedGenerators, Part.seedGenerators, hgenerators,
    Value.mendKeys_mendKeys, Value.mendKeys_map, List.filter_map, List.map_map]
  simp only [Function.comp_def, null]

/-- What is written of an envelope is read again with the keys that it is written with, unless
values of literal seed generators are missing. -/
theorem Part.Sayable.checker_dump {x : Part} (h : x.Sayable) : ∃ j : Part, j.bare = x.mended.bare ∧
    (x.mended.dump schema).checker schema levelLimit envelope =
      lacking j (x.nullLiterals.map Part.literalPlace) := by
  obtain ⟨v, hread⟩ := h.reads
  obtain ⟨w, hmended⟩ : ∃ w, Reads schema levelLimit envelope w x.mended :=
    exists_reads_mendedAs schema_faithful hread
  obtain ⟨j, hj, hc⟩ := Instance.checker_dump schema_faithful envelope_isFaithful hmended
  have hwhole : ∀ e ∈ x.mended.generatorEntries, Text.isTorn e.1 = false := by
    obtain ⟨s, hgenerators⟩ := exists_generatorEntries_mended x
    rw [hgenerators]
    exact fun e he => Value.isTorn_of_mem_mendKeys he
  rw [gaps_envelope hmended hwhole, nullLiterals_mended] at hc
  exact ⟨j, hj, hc⟩

variable {xs : List Part}

theorem mapM_eq_ok {ε α β : Type} {f : α → Except ε β} {as : List α} {bs : List β} :
    as.mapM f = .ok bs ↔ List.Forall₂ (fun a b => f a = .ok b) as bs := by
  constructor
  · intro h
    induction as generalizing bs with
    | nil =>
      obtain rfl := Except.ok.inj h
      exact .nil
    | cons a as ih =>
      rw [List.mapM_cons] at h
      obtain ⟨b, hb, h⟩ := bind_eq_ok h
      obtain ⟨rest, hrest, h⟩ := bind_eq_ok h
      obtain rfl := Except.ok.inj h
      exact .cons hb (ih hrest)
  · intro h
    induction h with
    | nil => rfl
    | cons hb _ ih =>
      rw [List.mapM_cons, hb, ih]
      rfl

/-- Several envelopes are written one by one. -/
theorem json_many_eq_ok {w : Value} : (Contents.many xs).json = .ok w ↔
    ∃ ws, w = .list ws ∧ List.Forall₂ (fun x w => Part.json x = .ok w) xs ws := by
  rw [Contents.json]
  constructor
  · intro hw
    cases hs : xs.mapM Part.json with
    | error fault => simp [hs, Except.map] at hw
    | ok ws =>
      rw [hs] at hw
      exact ⟨ws, (Except.ok.inj hw).symm, mapM_eq_ok.mp hs⟩
  · rintro ⟨ws, rfl, hs⟩
    rw [mapM_eq_ok.mpr hs]
    rfl

/-- One envelope that JSON cannot say is enough. -/
theorem json_many_eq_error {x : Part} {fault : JsonFault} (hx : x ∈ xs)
    (h : x.json = .error fault) : ∃ fault, (Contents.many xs).json = .error fault := by
  cases hw : (Contents.many xs).json with
  | error found => exact ⟨found, rfl⟩
  | ok w =>
    obtain ⟨ws, -, hws⟩ := json_many_eq_ok.mp hw
    obtain ⟨hlen, hsaid⟩ := List.forall₂_iff_zip.mp hws
    obtain ⟨w, hxw⟩ := exists_zip_of_mem hlen hx
    simpa [h] using hsaid hxw

/-- Envelopes that JSON can say are written one by one. -/
theorem json_many {w : Value} (h : ∀ x ∈ xs, x.Sayable) (hw : (Contents.many xs).json = .ok w) :
    w = .list (xs.map fun x => x.mended.dump schema) := by
  obtain ⟨ws, rfl, hws⟩ := json_many_eq_ok.mp hw
  congr 1
  clear hw
  induction hws with
  | nil => rfl
  | cons hx _ ih =>
    rw [List.forall_mem_cons] at h
    rw [List.map_cons, h.1.json_eq_dump hx, ← ih h.2]

/-- Where the values of literal seed generators that are null are missing in a list of envelopes. -/
def missingLiterals (xs : List Part) : List Location :=
  xs.zipIdx.flatMap fun p => (p.1.nullLiterals.map Part.literalPlace).map (.index p.2 :: ·)

theorem missingLiterals_eq_nil : missingLiterals xs = [] ↔ ∀ x ∈ xs, x.nullLiterals = [] := by
  rw [missingLiterals, List.flatMap_eq_nil_iff]
  simp only [List.map_eq_nil_iff]
  constructor
  · intro h x hx
    obtain ⟨i, hi, rfl⟩ := List.mem_iff_getElem.mp hx
    exact h (xs[i], i) (List.mk_mem_zipIdx_iff_getElem?.mpr (List.getElem?_eq_getElem hi))
  · exact fun h p hp => h p.1 (List.fst_mem_of_mem_zipIdx hp)

/-- Envelopes that were written are read as the same envelopes, with the keys that they are written
with, unless values are missing. -/
theorem ofValue_dump (h : ∀ x ∈ xs, x.Sayable) : ∃ ys : List Part,
    ys.map bare = (xs.map Part.mended).map bare ∧
    Contents.ofValue (.list (xs.map fun x => x.mended.dump schema)) =
      if missingLiterals xs = [] then .ok (.many ys)
      else .error ((missingLiterals xs).map (⟨.missing, ·⟩)) := by
  choose! j hj hc using fun x hx => (h x hx).checker_dump
  refine ⟨xs.map j, by simpa using hj, ?_⟩
  rw [Contents.ofValue, parseList, Value.check_eq_checker, checker_list_list,
    checkList_lacking (Nat.zero_le _) hc, ← missingLiterals]
  split
  · rename_i hnone
    rw [hnone]
    rfl
  · rename_i hsome
    rw [lacking_of_ne_nil _ hsome]
    rfl

variable {f g k : Folder} {place : List String} {path : String}

/-- Envelopes are saved as JSON that has no number that is too long and no halves of pairs. -/
theorem of_save {c : Contents} (h : c.save f place path = (g, .ok ())) :
    ∃ w made bytes, c.json = .ok w ∧ f.make place (Text.Path.parent path) = .ok made ∧
      fileBytes w = .ok bytes ∧ made.write place path bytes = .ok g := by
  rw [Contents.save] at h
  split at h
  · cases h
  rename_i w hw
  split at h
  · cases h
  rename_i made hmade
  rw [writeFile] at h
  split at h
  · cases h
  cases hbytes : fileBytes w with
  | error fault =>
    simp only [hbytes] at h
    split at h <;> cases h
  | ok bytes =>
    simp only [hbytes] at h
    split at h
    · rename_i hwrite
      obtain ⟨rfl, -⟩ := Prod.mk.inj h
      exact ⟨w, made, bytes, hw, hmade, hbytes, hwrite⟩
    · cases h

/-- Whatever comes of it, a folder only grows where envelopes are saved to it. -/
theorem save_grows (c : Contents) (f : Folder) (place : List String) (path : String) :
    Folder.Grows f (c.save f place path).1 := by
  rw [Contents.save]
  split
  · exact .refl f
  split
  · exact .refl f
  rename_i made hmade
  have hgrows := Folder.make_grows hmade
  rw [writeFile]
  split
  · exact hgrows
  · dsimp only
    split
    · rename_i hwrite
      exact hgrows.trans (Folder.write_grows hwrite)
    · exact hgrows

section Save

variable {c : Contents} {bytes : List UInt8}

theorem save_eq_json_fault {fault : JsonFault} (h : c.json = .error fault) :
    c.save f place path = (f, .error (.json fault)) := by
  rw [Contents.save, h]

/-- Where a file can be written, contents are saved to it that have bytes and no number that is too
long. -/
theorem save_eq_ok {w : Value} (hf : f.save place path bytes = .ok g) (hw : c.json = .ok w)
    (hl : w.hasLongNumber = false) (hbytes : fileBytes w = .ok bytes) :
    c.save f place path = (g, .ok ()) := by
  obtain ⟨made, hmade, hwrite⟩ := bind_eq_ok hf
  simp [Contents.save, writeFile, hw, hmade, hl, hbytes, hwrite]

/-- Where a file can be written, contents without a number that is too long are saved to it, but
nothing of those with halves of pairs. -/
theorem exists_save {w : Value} (hf : f.save place path bytes = .ok g) (hw : c.json = .ok w)
    (hl : w.hasLongNumber = false) : ∃ k,
    match fileBytes w with
    | .ok saved => c.save f place path = (k, .ok ()) ∧ k.look place path = .ok (.file saved)
    | .error fault =>
      c.save f place path = (k, .error (.unencodable fault)) ∧
        k.look place path = .ok (.file []) := by
  obtain ⟨made, hmade, hwrite⟩ := bind_eq_ok hf
  cases hbytes : fileBytes w with
  | ok saved =>
    obtain ⟨k, hk⟩ := Folder.exists_write hwrite saved
    refine ⟨k, ?_, Folder.look_write hk⟩
    simp [Contents.save, writeFile, hw, hmade, hl, hbytes, hk]
  | error fault =>
    obtain ⟨k, hk⟩ := Folder.exists_write hwrite []
    refine ⟨k, ?_, Folder.look_write hk⟩
    simp [Contents.save, writeFile, hw, hmade, hl, hbytes, hk]

/-- Contents with a number that is too long are not saved, but there is a folder for them. -/
theorem save_eq_tooManyDigits {w : Value} (hf : f.save place path bytes = .ok g)
    (hw : c.json = .ok w)
    (hl : w.hasLongNumber = true) : ∃ made, f.make place (Text.Path.parent path) = .ok made ∧
      c.save f place path = (made, .error .tooManyDigits) := by
  obtain ⟨made, hmade, -⟩ := bind_eq_ok hf
  exact ⟨made, hmade, by simp [Contents.save, writeFile, hw, hmade, hl]⟩

end Save

/-- What is loaded from the file that envelopes were saved to, if the JSON text in it is read as the
value that was written. -/
theorem load_save (h : ∀ x ∈ xs, x.Sayable)
    (hsave : (Contents.many xs).save f place path = (g, .ok ()))
    (hread : ∀ w, (Contents.many xs).json = .ok w → Json.read (Json.indented w) = .ok w) :
    ∃ ys : List Part, ys.map bare = (xs.map Part.mended).map bare ∧
      load g place path =
        if missingLiterals xs = [] then .ok (.many ys)
        else .error (.issues ((missingLiterals xs).map (⟨.missing, ·⟩))) := by
  obtain ⟨w, made, bytes, hw, -, hbytes, hwrite⟩ := of_save hsave
  have hlist := json_many h hw
  obtain ⟨ys, hys, hvalue⟩ := ofValue_dump h
  refine ⟨ys, hys, ?_⟩
  have htext : g.text? place path = .ok (some (Json.indented w ++ "\n").toList) := by
    rw [Folder.text?, Folder.look_write hwrite]
    simp only [fileText_fileBytes hbytes]
  rw [load, htext]
  simp only [ofText]
  rw [hlist] at hw ⊢
  rw [Json.trimWith_indented_list]
  obtain ⟨inner, hinner⟩ := Json.exists_indented_list (xs.map fun x => x.mended.dump schema)
  split
  · rename_i hnil
    simp [hinner] at hnil
  · rw [String.ofList_toList, hread _ hw]
    by_cases hnone : missingLiterals xs = []
    · rw [if_pos hnone] at hvalue ⊢
      simp only [hvalue]
    · rw [if_neg hnone] at hvalue ⊢
      simp only [hvalue]

end Ir
end SchemaIntents
