import Mathlib.Tactic.Common
import SchemaIntents.Folder

/-! Folders as files are written: what is a folder stays one, a file stays a file, and what was done
once can be done again. -/
namespace SchemaIntents.Folder

variable {f g h : Folder} {place names : List String} {path : String} {bytes : List UInt8}

/-- Of two folders the second is a later one: its files may hold something else. -/
structure Grows (f g : Folder) : Prop where
  folder : ∀ names, f.entry names = .folder → g.entry names = .folder
  file : ∀ names bytes, f.entry names = .file bytes → ∃ later, g.entry names = .file later

namespace Grows

theorem refl (f : Folder) : Grows f f :=
  ⟨fun _ => id, fun _ bytes h => ⟨bytes, h⟩⟩

theorem trans (hf : Grows f g) (hg : Grows g h) : Grows f h where
  folder names hn := hg.folder names (hf.folder names hn)
  file names bytes hn := by
    obtain ⟨_, hl⟩ := hf.file names bytes hn
    exact hg.file names _ hl

end Grows

theorem entry_eq_folder :
    f.entry names = .folder ↔ f.files.lookup names = none ∧ (names = [] ∨ names ∈ f.inner) := by
  unfold entry
  cases f.files.lookup names with
  | some found => simp
  | none => by_cases h : names = [] ∨ names ∈ f.inner <;> simp_all

theorem entry_eq_file : f.entry names = .file bytes ↔ f.files.lookup names = some bytes := by
  unfold entry
  cases f.files.lookup names with
  | some found => simp
  | none =>
    simp only [reduceCtorEq, iff_false]
    split <;> simp

theorem isFolder_iff : f.isFolder names = true ↔ f.entry names = .folder := by
  unfold isFolder
  cases f.entry names <;> simp

theorem lookup_filter_ne {files : List (List String × List UInt8)} {names other : List String}
    (h : other ≠ names) : (files.filter fun e => e.1 != names).lookup other =
      files.lookup other := by
  induction files with
  | nil => rfl
  | cons e files ih =>
    obtain ⟨k, v⟩ := e
    by_cases hk : k = names
    · simp [hk, List.lookup_cons, ih, beq_eq_false_iff_ne.mpr h]
    · simp [hk, List.lookup_cons, ih]

/-- Only what was written has changed. -/
theorem entry_put (f : Folder) (names : List String) (bytes : List UInt8) (other : List String) :
    (f.put names bytes).entry other = if other = names then .file bytes else f.entry other := by
  by_cases h : other = names
  · simp [entry, put, h]
  · simp [entry, put, List.lookup_cons, beq_eq_false_iff_ne.mpr h, lookup_filter_ne h, h]

/-- A place that is no folder is written to. -/
theorem grows_put (h : f.entry names ≠ .folder) : Grows f (f.put names bytes) where
  folder other ho := by
    have hne : other ≠ names := by
      rintro rfl
      exact h ho
    rw [entry_put, if_neg hne, ho]
  file other before ho := by
    rw [entry_put]
    split
    · exact ⟨bytes, rfl⟩
    · exact ⟨before, ho⟩

theorem mem_inner_withInner {other : List String} :
    other ∈ (f.withInner names).inner ↔ other ∈ f.inner ∨ other ∈ starts names := by
  by_cases h : other ∈ f.inner <;> simp [withInner, h]

theorem grows_withInner : Grows f (f.withInner names) where
  folder other ho := by
    rw [entry_eq_folder] at ho ⊢
    exact ⟨ho.1, ho.2.imp_right fun hi => mem_inner_withInner.mpr (.inl hi)⟩
  file other bytes ho := by
    rw [entry_eq_file] at ho
    exact ⟨bytes, entry_eq_file.mpr ho⟩

theorem mem_starts_self (h : names ≠ []) : names ∈ starts names := by
  have hlen := List.length_pos_iff.mpr h
  refine List.mem_map.mpr ⟨names.length - 1, List.mem_range.mpr (by omega), ?_⟩
  rw [Nat.sub_add_cancel hlen, List.take_length]

/-- Where nothing was there is a folder then. -/
theorem entry_withInner (hn : names ≠ []) (h : f.entry names = .absent) :
    (f.withInner names).entry names = .folder := by
  have hfile : f.files.lookup names = none := by
    cases hf : f.files.lookup names with
    | none => rfl
    | some bytes => simp [entry_eq_file.mpr hf] at h
  exact entry_eq_folder.mpr ⟨hfile, .inr (mem_inner_withInner.mpr (.inr (mem_starts_self hn)))⟩

theorem makeFrom_grows {steps : List String} {shown : String} {added : Bool}
    (hm : f.makeFrom place shown added steps = .ok g) : Grows f g := by
  fun_induction makeFrom f place shown added steps with
  | case1 => exact Except.ok.inj hm ▸ .refl _
  | case2 _ _ _ _ _ _ ih => exact ih hm
  | case4 _ _ _ _ _ _ _ _ _ _ _ ih => exact ih hm
  | case5 _ _ _ _ _ _ _ _ _ _ _ ih => exact grows_withInner.trans (ih hm)
  | _ => cases hm

/-- Folders that were added are there, and need not be added again. -/
theorem makeFrom_again {steps : List String} {shown : String} {added : Bool}
    (hm : f.makeFrom place shown added steps = .ok g) (hg : Grows g h) (shown' : String)
    (added' : Bool) : h.makeFrom place shown' added' steps = .ok h := by
  fun_induction makeFrom f place shown added steps generalizing shown' added' with
  | case1 => rfl
  | case2 f place shown added rest here ih =>
    rw [makeFrom]
    simp only [if_true]
    exact ih hm _ _
  | case4 f place shown added step rest here hup hlong next hentry ih =>
    rw [makeFrom]
    simp only [hup, hlong, if_false]
    rw [hg.folder _ ((makeFrom_grows hm).folder _ hentry)]
    exact ih hm _ _
  | case5 f place shown added step rest here hup hlong next hentry ih =>
    have there := entry_withInner (List.append_ne_nil_of_right_ne_nil _ (by simp)) hentry
    rw [makeFrom]
    simp only [hup, hlong, if_false]
    rw [hg.folder _ ((makeFrom_grows hm).folder _ there)]
    exact ih hm _ _
  | _ => cases hm

theorem make_grows (hm : f.make place path = .ok g) : Grows f g := by
  unfold make at hm
  split at hm
  · cases hm
  split at hm
  · cases hm
  · exact makeFrom_grows hm

theorem makeFrom_files {steps : List String} {shown : String} {added : Bool}
    (hm : f.makeFrom place shown added steps = .ok g) : g.files = f.files := by
  fun_induction makeFrom f place shown added steps with
  | case1 => exact congrArg files (Except.ok.inj hm).symm
  | case2 _ _ _ _ _ _ ih => exact ih hm
  | case4 _ _ _ _ _ _ _ _ _ _ _ ih => exact ih hm
  | case5 _ _ _ _ _ _ _ _ _ _ _ ih => exact ih hm
  | _ => cases hm

/-- Folders are made without a change to any file. -/
theorem make_files (hm : f.make place path = .ok g) : g.files = f.files := by
  rw [make] at hm
  split at hm
  · cases hm
  split at hm
  · cases hm
  · exact makeFrom_files hm

theorem make_again (hm : f.make place path = .ok g) (hg : Grows g h) :
    h.make place path = .ok h := by
  unfold make at hm ⊢
  split at hm
  · cases hm
  rename_i hnul
  split at hm
  · cases hm
  rename_i hlong
  rw [if_neg hnul, if_neg hlong]
  exact makeFrom_again hm hg _ _

/-- A way that leads somewhere leads there still. -/
theorem walk_grows {steps : List String} (hg : Grows f g) (hw : f.walk place steps = .place names) :
    g.walk place steps = .place names := by
  induction steps generalizing place with
  | nil => exact hw
  | cons step rest ih =>
    rw [walk] at hw ⊢
    split at hw
    · rename_i hf
      rw [if_pos (isFolder_iff.mpr (hg.folder _ (isFolder_iff.mp hf)))]
      split at hw
      · rename_i hup
        rw [if_pos hup]
        exact ih hw
      split at hw
      · cases hw
      · rename_i hup hlong
        rw [if_neg hup, if_neg hlong]
        exact ih hw
    · cases hw

theorem locate_grows (hg : Grows f g) (hl : f.locate place path = .place names) :
    g.locate place path = .place names := by
  unfold locate at hl ⊢
  split at hl
  · cases hl
  rename_i hnul
  split at hl
  · cases hl
  rename_i hlong
  rw [if_neg hnul, if_neg hlong]
  exact walk_grows hg hl

theorem write_eq_ok : f.write place path bytes = .ok g ↔
    ∃ names, f.locate place path = .place names ∧ f.entry names ≠ .folder ∧
      g = f.put names bytes := by
  unfold write
  split
  · rename_i hnul
    simp [locate, hnul]
  · cases hl : f.locate place path with
    | place found =>
      cases he : f.entry found <;> simp [eq_comm, he]
    | _ => simp

theorem write_grows (hw : f.write place path bytes = .ok g) : Grows f g := by
  obtain ⟨_, -, hf, rfl⟩ := write_eq_ok.mp hw
  exact grows_put hf

/-- Where some bytes can be written, all others can. -/
theorem exists_write (hw : f.write place path bytes = .ok g) (other : List UInt8) :
    ∃ k, f.write place path other = .ok k := by
  obtain ⟨names, hl, hf, -⟩ := write_eq_ok.mp hw
  exact ⟨_, write_eq_ok.mpr ⟨names, hl, hf, rfl⟩⟩

theorem look_of_locate (hl : f.locate place path = .place names) :
    f.look place path = .ok (f.entry names) := by
  simp [look, hl]

/-- What was written at a path lies there. -/
theorem look_write (hw : f.write place path bytes = .ok g) :
    g.look place path = .ok (.file bytes) := by
  obtain ⟨names, hl, hf, rfl⟩ := write_eq_ok.mp hw
  rw [look_of_locate (locate_grows (grows_put hf) hl), entry_put, if_pos rfl]

/-- Where the same lies everywhere, the same is found at a path. -/
theorem walk_congr (he : ∀ names, f.entry names = g.entry names) (place steps : List String) :
    f.walk place steps = g.walk place steps := by
  have same : f.isFolder = g.isFolder := by
    funext names
    rw [isFolder, isFolder, he]
  fun_induction walk f place steps <;> simp_all [walk]

theorem text?_congr (he : ∀ names, f.entry names = g.entry names) (place : List String)
    (path : String) : f.text? place path = g.text? place path := by
  have hlook : f.look place path = g.look place path := by
    simp only [look, locate, walk_congr he, he]
  rw [text?, text?, hlook]

end SchemaIntents.Folder
