import SchemaIntents.Log.Setup
import SchemaIntents.Proofs.Folder
import SchemaIntents.Proofs.Shape.Checking

/-! A log that was set up once is set up again without any change to the files that are there. -/
namespace SchemaIntents

open Folder (Grows)

variable {f g h : Folder} {place : List String} {environment : Environment}
  {arguments : List (String × Value)} {s : Settings}

namespace Settings

theorem load_eq_ok : load arguments environment f place = .ok (s, g) ↔
    ∃ e, environmentWith environment f place = .ok e ∧ ofSources arguments e = .ok s ∧
      match s.logFile with
      | none => g = f
      | some path => f.make place (Text.Path.parent path) = .ok g := by
  unfold load
  constructor
  · intro h
    obtain ⟨e, he, h⟩ := bind_eq_ok h
    refine ⟨e, he, ?_⟩
    cases hs : ofSources arguments e with
    | error is =>
      simp only [hs] at h
      exact absurd h throw_ne_ok
    | ok found =>
      simp only [hs] at h
      cases hp : found.logFile with
      | none =>
        simp only [hp] at h
        cases h
        simp [hp]
      | some path =>
        cases hm : f.make place (Text.Path.parent path) with
        | error fault =>
          simp only [hp, hm] at h
          exact absurd h throw_ne_ok
        | ok made =>
          simp only [hp, hm] at h
          cases h
          simp [hp, hm]
  · rintro ⟨e, he, hs, hfile⟩
    rw [he]
    cases hp : s.logFile <;> simp_all [bind, Except.bind, pure, Except.pure]

/-- Settings are loaded again where the environment is the same, and no folder is added. -/
theorem load_again (hl : load arguments environment f place = .ok (s, g)) (hg : Grows g h)
    (henv : environmentWith environment h place = environmentWith environment f place) :
    load arguments environment h place = .ok (s, h) := by
  obtain ⟨e, he, hs, hfile⟩ := load_eq_ok.mp hl
  refine load_eq_ok.mpr ⟨e, henv.trans he, hs, ?_⟩
  cases hp : s.logFile with
  | none => rfl
  | some path =>
    simp only [hp] at hfile
    exact Folder.make_again hfile hg

end Settings

namespace Log.Setup

/-- A file is opened where a path leads to no folder, and holds what it held. -/
theorem openFile_eq_ok {path : String} {names : List String} :
    openFile f place path = .ok (names, g) ↔
      f.locate place path = .place names ∧ f.entry names ≠ .folder ∧
        g = f.put names (match f.entry names with | .file bytes => bytes | _ => []) := by
  unfold openFile
  constructor
  · intro h
    obtain ⟨made, hm, h⟩ := bind_eq_ok h
    obtain ⟨found, hl, hf, rfl⟩ := Folder.write_eq_ok.mp hm
    simp only [hl] at h
    cases h
    rw [Folder.look_of_locate hl]
    refine ⟨hl, hf, ?_⟩
    cases f.entry names <;> rfl
  · rintro ⟨hl, hf, rfl⟩
    have hw (bytes : List UInt8) : f.write place path bytes = .ok (f.put names bytes) :=
      Folder.write_eq_ok.mpr ⟨names, hl, hf, rfl⟩
    rw [Folder.look_of_locate hl]
    cases f.entry names <;> simp [hw, hl, bind, Except.bind, pure, Except.pure]

variable {quiet : Option Bool} {setup : Setup}

/-- A setup has the level of the settings, and a file where the settings have one. -/
theorem start_eq_ok : start (.ok (s, f)) { quiet } place = .ok (setup, g) ↔
    ∃ level format file, levelOf (Text.upper s.logLevel) = .ok (.inl level) ∧
      formatOf none (.inl level) = .ok format ∧
      setup = ⟨level, if quiet.getD s.quiet then max level fallback else level, file, format⟩ ∧
      match s.logFile with
      | none => file = none ∧ g = f
      | some path => ∃ names, file = some names ∧ openFile f place path = .ok (names, g) := by
  unfold start
  constructor
  · intro h
    obtain ⟨⟨s', f'⟩, hs, h⟩ := bind_eq_ok h
    cases hs
    obtain ⟨named, hn, h⟩ := bind_eq_ok h
    obtain ⟨format, hf, h⟩ := bind_eq_ok h
    cases named with
    | inr found =>
      obtain ⟨_, hlevel, -⟩ := bind_eq_ok h
      exact absurd hlevel throw_ne_ok
    | inl level =>
      obtain ⟨_, hlevel, h⟩ := bind_eq_ok h
      cases hlevel
      cases hp : s.logFile with
      | none =>
        simp only [Option.filter_none, Option.none_or, hp] at h
        cases h
        exact ⟨level, format, none, hn, hf, rfl, rfl, rfl⟩
      | some path =>
        simp only [Option.filter_none, Option.none_or, hp] at h
        obtain ⟨⟨names, made⟩, ho, h⟩ := bind_eq_ok h
        cases h
        refine ⟨level, format, some names, hn, hf, rfl, names, rfl, ?_⟩
        cases hopen : openFile f place path with
        | error fault => simp [hopen, Except.mapError] at ho
        | ok found => simpa [hopen, Except.mapError] using ho
  · rintro ⟨level, format, file, hn, hf, rfl, hfile⟩
    simp only [given, hn, hf, bind, Except.bind, pure, Except.pure, Except.mapError]
    cases hp : s.logFile with
    | none =>
      simp only [hp] at hfile
      obtain ⟨rfl, rfl⟩ := hfile
      rfl
    | some path =>
      simp only [hp] at hfile
      obtain ⟨names, rfl, ho⟩ := hfile
      simp [ho]

theorem start_grows (hs : start (.ok (s, f)) { quiet } place = .ok (setup, g)) : Grows f g := by
  obtain ⟨_, _, _, -, -, -, hfile⟩ := start_eq_ok.mp hs
  cases hp : s.logFile with
  | none =>
    simp only [hp] at hfile
    exact hfile.2 ▸ .refl f
  | some path =>
    simp only [hp] at hfile
    obtain ⟨names, -, ho⟩ := hfile
    obtain ⟨-, hf, rfl⟩ := openFile_eq_ok.mp ho
    exact Folder.grows_put hf

/-- What a log writes to is a file. -/
theorem file_of_start (hs : start (.ok (s, f)) { quiet } place = .ok (setup, g))
    {names : List String}
    (hn : setup.file = some names) : ∃ bytes, g.entry names = .file bytes := by
  obtain ⟨_, _, _, -, -, rfl, hfile⟩ := start_eq_ok.mp hs
  cases hp : s.logFile with
  | none => simp_all
  | some path =>
    simp only [hp] at hfile hn
    obtain ⟨_, rfl, ho⟩ := hfile
    cases hn
    obtain ⟨-, -, rfl⟩ := openFile_eq_ok.mp ho
    exact ⟨_, by rw [Folder.entry_put, if_pos rfl]⟩

/-- Writing to a log keeps what is a file a file. -/
theorem write_grows (hs : start (.ok (s, f)) { quiet } place = .ok (setup, g)) (time : String)
    (records : List Record) (hg : Grows g h) : Grows h (setup.write time records h) := by
  unfold write
  cases hn : setup.file with
  | none => exact .refl h
  | some names =>
    obtain ⟨bytes, hb⟩ := file_of_start hs hn
    obtain ⟨later, hl⟩ := hg.file names bytes hb
    exact Folder.grows_put (by simp [hl])

/-- A log that was set up is set up again, quiet or not, and no file changes. -/
theorem start_again (hs : start (.ok (s, f)) { quiet } place = .ok (setup, g)) (hg : Grows g h)
    (quiet' : Option Bool) : ∃ setup' k,
      start (.ok (s, h)) { quiet := quiet' } place = .ok (setup', k) ∧
        ∀ names, k.entry names = h.entry names := by
  obtain ⟨level, format, file, hlevel, hformat, rfl, hfile⟩ := start_eq_ok.mp hs
  cases hp : s.logFile with
  | none =>
    exact ⟨⟨level, _, none, format⟩, h, start_eq_ok.mpr ⟨level, format, none, hlevel,
      hformat, rfl, by simp [hp]⟩, fun _ => rfl⟩
  | some path =>
    simp only [hp] at hfile
    obtain ⟨names, hn, ho⟩ := hfile
    obtain ⟨bytes, hb⟩ := file_of_start hs hn
    obtain ⟨later, hlater⟩ := hg.file names bytes hb
    obtain ⟨hl, hf, -⟩ := openFile_eq_ok.mp ho
    have hlocate := Folder.locate_grows ((start_grows hs).trans hg) hl
    have hopen : openFile h place path = .ok (names, h.put names later) :=
      openFile_eq_ok.mpr ⟨hlocate, by simp [hlater], by simp [hlater]⟩
    refine ⟨⟨level, _, some names, format⟩, h.put names later, start_eq_ok.mpr ⟨level, format,
      some names, hlevel, hformat, rfl, ?_⟩, fun other => ?_⟩
    · simp only [hp]
      exact ⟨names, rfl, hopen⟩
    · rw [Folder.entry_put]
      split
      · rename_i he
        rw [he, hlater]
      · rfl

end Log.Setup
end SchemaIntents
