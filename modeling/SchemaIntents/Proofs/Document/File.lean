import SchemaIntents.Document.File
import SchemaIntents.Proofs.Ir.File
import SchemaIntents.Proofs.Json.Reading
import SchemaIntents.Proofs.Json.Rereading

/-! Documents in JSON files: what is loaded is JSON, and what was laid out there is loaded. -/
namespace SchemaIntents.Document

variable {f : Folder} {place : List String} {path : String} {v : Value} {cs : List Char}

theorem isJson_of_ofText (hp : isYaml path = false) (h : ofText path cs = .ok v) : v.IsJson := by
  unfold ofText at h
  dsimp only at h
  split at h
  · cases h
  rw [hp] at h
  obtain ⟨w, hw, h⟩ := bind_eq_ok h
  have hjson : w.IsJson := by
    simp only [valueOfJson] at hw
    split at hw <;> cases hw
    exact Json.isJson_of_read ‹_›
  split at h <;> cases h <;> exact hjson

/-- The document in a JSON file is JSON. -/
theorem isJson_of_load (hp : isYaml (Text.Path.normalize path) = false)
    (h : load f place path = .ok v) : v.IsJson := by
  unfold load at h
  dsimp only at h
  split at h
  · cases h
  · cases h
  · exact isJson_of_ofText hp h

/-- A document that was laid out in a JSON file is loaded from there. -/
theorem load_fileBytes {entries : List (String × Value)} {bytes : List UInt8}
    (hp : isYaml (Text.Path.normalize path) = false)
    (h : Json.isReadable Json.depthLimit (.obj entries) = true)
    (hbytes : Ir.fileBytes (.obj entries) = .ok bytes)
      (hf : f.look place path = .ok (.file bytes)) :
    load f place path = .ok (.obj entries) := by
  have htext : f.text? place path = .ok (some (Json.indented (.obj entries) ++ "\n").toList) := by
    rw [Folder.text?, hf]
    simp only [fileText_fileBytes hbytes]
  have hblank : (Json.indented (.obj entries) ++ "\n").toList.all Text.isBlank = false := by
    obtain ⟨inner, hi⟩ := Json.exists_block "\x7b" "\x7d" 0 (Json.indentedEntries 1 entries)
    have hopening : Text.isBlank '\x7b' = false := by decide
    rw [show Json.indented (.obj entries) = _ from hi]
    simp [hopening]
  have hline : Json.Ends ['\n'] := Json.ends_cons (by decide) []
  have hread := Json.readWhole_indented h hline (by simp [Json.isSpace])
  have hvalue (shown : String) : valueOfJson shown (Json.indented (.obj entries) ++ "\n").toList =
      .ok (.obj entries) := by
    rw [valueOfJson, Json.read, String.toList_ofList, String.toList_append]
    simp only [show "\n".toList = ['\n'] from rfl, hread]
  rw [load, htext]
  simp only [ofText, hblank, hp, hvalue, bind, Except.bind, pure, Except.pure]
  rfl

end SchemaIntents.Document
