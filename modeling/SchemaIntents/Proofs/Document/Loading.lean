import SchemaIntents.Document.File
import SchemaIntents.Proofs.Json.Overflow
import SchemaIntents.Proofs.Text.Utf8
import SchemaIntents.Proofs.Yaml.Loading

/-! Loading a document: it is a mapping, and where none is loaded the file is rejected, but for
paths and files that nothing is read from, bytes that encode no text, and texts that ask for more
than is read or spell what is no value. -/
namespace SchemaIntents.Document

variable {f : Folder} {place : List String} {path : String} {v : Value} {cs : List Char}
  {fault : LoadFault}

/-- The text of the file at a path, its line breaks all of one kind. -/
structure HasText (f : Folder) (place : List String) (path : String) (cs : List Char) : Prop where
  look : ∃ text : List Char, f.look place path = .ok (.file (text.flatMap String.utf8EncodeChar)) ∧
    Text.Utf8.unifyBreaks (Text.hold text) = cs
  notBlank : cs.all Text.isBlank = false

/-- Why loading a document fails with another fault than that the file holds none. -/
inductive Escapes (f : Folder) (place : List String) (path : String) : LoadFault → Prop
  | tooLong (h : f.locate place path = .tooLong) :
      Escapes f place path (.unreadable (.path (.tooLong (Text.Path.normalize path))))
  | folder (h : f.look place path = .ok .folder) :
      Escapes f place path (.unreadable (.path (.isFolder (Text.Path.normalize path))))
  | undecodable {bytes : List UInt8} {fault : Text.Utf8.Fault}
      (h : f.look place path = .ok (.file bytes))
      (hbytes : ∀ text : List Char, bytes ≠ text.flatMap String.utf8EncodeChar)
      (hfault : Text.Utf8.decode bytes = .error fault) :
      Escapes f place path (.unreadable (.undecodable fault))
  | digits {cs : List Char} {n : Nat} (h : HasText f place path cs)
      (hp : isYaml (Text.Path.normalize path) = false)
      (hn : Json.Overflows (.tooManyDigits n) .value Json.depthLimit (Json.skipSpace cs)) :
      Escapes f place path (.scalar (.tooManyDigits n))
  | brackets {cs : List Char} {b : Json.Bracket} (h : HasText f place path cs)
      (hp : isYaml (Text.Path.normalize path) = false)
      (hb : Json.Overflows (.tooDeep b) .value Json.depthLimit (Json.skipSpace cs)) :
      Escapes f place path (.tooDeep (some b))
  | scalar {cs : List Char} {s : Yaml.ScalarFault} (h : HasText f place path cs)
      (hp : isYaml (Text.Path.normalize path) = true) (hs : Yaml.Fails cs (.scalar s)) :
      Escapes f place path (.scalar s)
  | depth {cs : List Char} (h : HasText f place path cs)
      (hp : isYaml (Text.Path.normalize path) = true) (hd : Yaml.Fails cs .tooDeep) :
      Escapes f place path (.tooDeep none)

theorem escapes_valueOfYaml (hf : ∀ shown p, fault ≠ .rejected shown p) :
    valueOfYaml path cs = .error fault ↔
      (∃ s, fault = .scalar s ∧ Yaml.Fails cs (.scalar s)) ∨
        fault = .tooDeep none ∧ Yaml.Fails cs .tooDeep := by
  rw [← Yaml.load_eq_error Yaml.Fault.noConfusion]
  simp only [← Yaml.load_eq_error (f := .scalar _) Yaml.Fault.noConfusion]
  unfold valueOfYaml
  cases Yaml.load cs with
  | ok v => simp
  | error e =>
    cases e with
    | malformed => simpa using Ne.symm (hf _ _)
    | scalar s => simp [eq_comm]
    | tooDeep => simp [eq_comm]

theorem escapes_valueOfJson (hf : ∀ shown p, fault ≠ .rejected shown p) :
    valueOfJson path cs = .error fault ↔
      (∃ n, fault = .scalar (.tooManyDigits n) ∧
        Json.Overflows (.tooManyDigits n) .value Json.depthLimit (Json.skipSpace cs)) ∨
      ∃ b, fault = .tooDeep (some b) ∧
        Json.Overflows (.tooDeep b) .value Json.depthLimit (Json.skipSpace cs) := by
  have hdigits (n : Nat) : Json.read (String.ofList cs) = .error (.tooManyDigits n) ↔ _ :=
    Json.read_eq_tooManyDigits
  have hdeep (b : Json.Bracket) : Json.read (String.ofList cs) = .error (.tooDeep b) ↔ _ :=
    Json.read_eq_tooDeep
  simp only [String.toList_ofList] at hdigits hdeep
  simp only [← hdigits, ← hdeep]
  unfold valueOfJson
  cases Json.read (String.ofList cs) with
  | ok v => simp
  | error e =>
    cases e with
    | malformed => simpa using Ne.symm (hf _ _)
    | tooManyDigits n => simp [eq_comm]
    | tooDeep b => simp [eq_comm]

/-- A text that is not blank fails as the value in it does. -/
theorem ofText_eq_error (hf : ∀ shown p, fault ≠ .rejected shown p) :
    ofText path cs = .error fault ↔ cs.all Text.isBlank = false ∧
      (if isYaml path then valueOfYaml path cs else valueOfJson path cs) = .error fault := by
  unfold ofText
  dsimp only
  constructor
  · intro h
    split at h
    · cases h
      exact absurd rfl (hf _ _)
    refine ⟨Bool.eq_false_iff.mpr ‹_›, ?_⟩
    split at h
    all_goals
      rename_i hp
      simp only [hp]
      rcases bind_eq_error h with h | ⟨v, -, h⟩
      · exact h
      split at h <;> cases h
      exact absurd rfl (hf _ _)
  · rintro ⟨hblank, h⟩
    rw [if_neg (Bool.eq_false_iff.mp hblank)]
    split at h
    all_goals
      rename_i hp
      simp only [hp, h]
      rfl

theorem text?_eq_ok : f.text? place path = .ok (some cs) ↔
    ∃ text : List Char, f.look place path = .ok (.file (text.flatMap String.utf8EncodeChar)) ∧
      Text.Utf8.unifyBreaks (Text.hold text) = cs := by
  unfold Folder.text?
  rcases f.look place path with e | (_ | _ | bytes)
  · simp
  · simp
  · simp
  · unfold fileText
    cases hd : Text.Utf8.decode bytes with
    | ok text =>
      have hbytes (other : List Char) :
          bytes = other.flatMap String.utf8EncodeChar ↔ text = other := by
        rw [← Text.Utf8.decode_eq_ok, hd, Except.ok.injEq]
      simp [Text.Utf8.read, Except.map, hd, hbytes]
    | error e =>
      have hbytes (other : List Char) : bytes ≠ other.flatMap String.utf8EncodeChar := by
        simp [← Text.Utf8.decode_eq_ok, hd]
      simp [Text.Utf8.read, Except.map, hd, hbytes]

theorem text?_eq_error {fault : TextFault} : f.text? place path = .error fault ↔
    (∃ e, f.look place path = .error e ∧ fault = .path e) ∨
    (f.look place path = .ok .folder ∧ fault = .path (.isFolder (Text.Path.normalize path))) ∨
    ∃ bytes e, f.look place path = .ok (.file bytes) ∧ Text.Utf8.decode bytes = .error e ∧
      fault = .undecodable e := by
  unfold Folder.text?
  rcases f.look place path with e | (_ | _ | bytes)
  · simp [eq_comm]
  · simp
  · simp [eq_comm]
  · cases hd : Text.Utf8.decode bytes <;> simp [fileText, Text.Utf8.read, Except.map, hd, eq_comm]

theorem look_eq_error {e : PathFault} : f.look place path = .error e ↔
    f.locate place path = .tooLong ∧ e = .tooLong (Text.Path.normalize path) := by
  unfold Folder.look
  cases f.locate place path <;> simp [eq_comm]

theorem hasText_iff : HasText f place path cs ↔
    f.text? place path = .ok (some cs) ∧ cs.all Text.isBlank = false :=
  ⟨fun h => ⟨text?_eq_ok.mpr h.look, h.notBlank⟩, fun h => ⟨text?_eq_ok.mp h.1, h.2⟩⟩

/-- Loading fails for what is no fault of a file that holds no document just when the path or the
file is not read, or a text that is read asks for too much or spells no value. -/
theorem load_eq_error (hf : ∀ shown p, fault ≠ .rejected shown p) :
    load f place path = .error fault ↔ Escapes f place path fault := by
  constructor
  · intro h
    unfold load at h
    dsimp only at h
    split at h
    · rename_i e ht
      cases h
      rcases text?_eq_error.mp ht with ⟨_, hl, rfl⟩ | ⟨hl, rfl⟩ | ⟨bytes, _, hl, hd, rfl⟩
      · obtain ⟨hlong, rfl⟩ := look_eq_error.mp hl
        exact .tooLong hlong
      · exact .folder hl
      · refine .undecodable hl (fun text => ?_) hd
        simp [← Text.Utf8.decode_eq_ok, hd]
    · cases h
      exact absurd rfl (hf _ _)
    · rename_i cs ht
      obtain ⟨hblank, h⟩ := (ofText_eq_error hf).mp h
      have htext := hasText_iff.mpr ⟨ht, hblank⟩
      cases hp : isYaml (Text.Path.normalize path) with
      | true =>
        rw [hp, if_pos rfl] at h
        obtain ⟨s, rfl, hs⟩ | ⟨rfl, hd⟩ := (escapes_valueOfYaml hf).mp h
        · exact .scalar htext hp hs
        · exact .depth htext hp hd
      | false =>
        rw [hp, if_neg Bool.false_ne_true] at h
        obtain ⟨n, rfl, hn⟩ | ⟨b, rfl, hb⟩ := (escapes_valueOfJson hf).mp h
        · exact .digits htext hp hn
        · exact .brackets htext hp hb
  · have text {cs : List Char} (ht : HasText f place path cs)
        (h : (if isYaml (Text.Path.normalize path) then valueOfYaml (Text.Path.normalize path) cs
          else valueOfJson (Text.Path.normalize path) cs) = .error fault) :
        load f place path = .error fault := by
      obtain ⟨ht, hblank⟩ := hasText_iff.mp ht
      rw [load, ht]
      exact (ofText_eq_error hf).mpr ⟨hblank, h⟩
    have unread {e : TextFault} (he : f.text? place path = .error e) :
        load f place path = .error (.unreadable e) := by
      rw [load, he]
    intro h
    cases h with
    | tooLong h => exact unread (text?_eq_error.mpr (.inl ⟨_, look_eq_error.mpr ⟨h, rfl⟩, rfl⟩))
    | folder h => exact unread (text?_eq_error.mpr (.inr (.inl ⟨h, rfl⟩)))
    | undecodable h _ hfault =>
      exact unread (text?_eq_error.mpr (.inr (.inr ⟨_, _, h, hfault, rfl⟩)))
    | digits h hp hn =>
      refine text h ?_
      rw [hp]
      exact (escapes_valueOfJson hf).mpr (.inl ⟨_, rfl, hn⟩)
    | brackets h hp hb =>
      refine text h ?_
      rw [hp]
      exact (escapes_valueOfJson hf).mpr (.inr ⟨_, rfl, hb⟩)
    | scalar h hp hs =>
      refine text h ?_
      rw [hp]
      exact (escapes_valueOfYaml hf).mpr (.inl ⟨_, rfl, hs⟩)
    | depth h hp hd =>
      refine text h ?_
      rw [hp]
      exact (escapes_valueOfYaml hf).mpr (.inr ⟨rfl, hd⟩)

/-- A file that starts with no first byte of a character. -/
example : load (.ofFiles [("intents.json", [0xFF])]) [] "intents.json" =
    .error (.unreadable (.undecodable ⟨.invalidStart, 0xFF, 0, 1⟩)) := by
  rfl

end SchemaIntents.Document
