import BrowserFlow.Store.ScriptStore

/-!
# Putting a folder back

A store works on its folder and puts it back in its place. A path that leads to the
folder still does so afterwards, also if it goes through the folder or past it and back
by `..`: every folder on the way is there as before, as long as the folder `Retains` those
that lie in it (`Folder.locate_mono`, `Entry.at?_put_folder`). So the store finds what it
has put back (`ScriptStore.folder?_replace_of_retains`, and `ScriptStore.folder?_replace` for
a folder of files), and makes nothing where its folder is there
(`ScriptStore.makeFolder_of_folder?`).
-/

namespace BrowserFlow.Store

/-- No folder lies in the folder. -/
def Folder.FilesOnly (folder : Folder) : Prop :=
  ∀ name e, Table.get? folder name = some e → ∃ bytes, e = .file bytes

theorem Folder.FilesOnly.set {folder : Folder} (h : folder.FilesOnly) (name : String)
    (bytes : List UInt8) : Folder.FilesOnly (Table.set folder name (.file bytes)) := by
  intro other e he
  rw [Table.get?_set] at he
  split at he
  · exact ⟨bytes, (Option.some.inj he).symm⟩
  · exact h other e he

/-- No folder has the name, so that a file can be written there. -/
def Folder.IsFree (folder : Folder) (name : String) : Prop :=
  ∀ entries, Table.get? folder name ≠ some (.folder entries)

theorem Folder.FilesOnly.isFree {folder : Folder} (h : folder.FilesOnly) (name : String) :
    folder.IsFree name := by
  intro entries hget
  obtain ⟨bytes, hbytes⟩ := h name _ hget
  cases hbytes

/-- The folders that lie in a folder also lie in another, and the other leaves the outside
alone. -/
structure Folder.Retains (folder new : Folder) : Prop where
  folder_eq : ∀ name entries, Table.get? folder name = some (.folder entries) →
    Table.get? new name = some (.folder entries)
  outside_eq : Table.get? folder Folder.outside = none → Table.get? new Folder.outside = none

theorem Folder.FilesOnly.retains {folder new : Folder} (h : folder.FilesOnly)
    (hnew : Table.get? new Folder.outside = none) : folder.Retains new where
  folder_eq name entries hget := absurd hget (h.isFree name entries)
  outside_eq _ := hnew

theorem Folder.Retains.refl (folder : Folder) : folder.Retains folder :=
  ⟨fun _ _ h => h, fun h => h⟩

theorem Folder.Retains.set {folder new : Folder} (h : folder.Retains new) {name : String}
    (hname : name ≠ Folder.outside) (hfree : folder.IsFree name) (bytes : List UInt8) :
    folder.Retains (Table.set new name (.file bytes)) where
  folder_eq other entries hget := by
    have hother : name ≠ other := by
      rintro rfl
      exact hfree entries hget
    rw [Table.get?_set, if_neg hother, h.folder_eq other entries hget]
  outside_eq hnone := by rw [Table.get?_set, if_neg hname, h.outside_eq hnone]

namespace Entry

theorem at?_put (new : Entry) {names : List String} {e old : Entry}
    (h : e.at? names = some old) : (put new names e).at? names = some new := by
  induction names generalizing e with
  | nil => rfl
  | cons name rest ih =>
      cases e with
      | file bytes => simp [at?] at h
      | folder entries =>
          cases hget : Table.get? entries name with
          | none => simp [at?, hget] at h
          | some child =>
              simp only [at?, hget] at h
              simpa [put, at?, Table.get?_set, hget] using ih h

/-- Where a folder is replaced by one that retains its folders, all folders stay folders. -/
theorem at?_put_folder {names here : List String} {e : Entry} {folder new other : Folder}
    (hold : e.at? names = some (.folder folder)) (hretains : folder.Retains new)
    (hhere : e.at? here = some (.folder other)) :
    ∃ left, (put (.folder new) names e).at? here = some (.folder left) := by
  induction names generalizing e here with
  | nil =>
      obtain rfl := Option.some.inj hold
      cases here with
      | nil => exact ⟨new, rfl⟩
      | cons name rest =>
          -- what leads to a folder here goes through a folder, which is retained
          cases hget : Table.get? folder name with
          | none => simp [at?, hget] at hhere
          | some child =>
              cases child with
              | file bytes => cases rest <;> simp [at?, hget] at hhere
              | folder entries =>
                  refine ⟨other, ?_⟩
                  simp only [at?, hget] at hhere
                  simpa only [put, at?, hretains.folder_eq name entries hget] using hhere
  | cons name rest ih =>
      cases e with
      | file bytes => simp [at?] at hold
      | folder entries =>
          cases hget : Table.get? entries name with
          | none => simp [at?, hget] at hold
          | some child =>
              simp only [at?, hget] at hold
              cases here with
              | nil => exact ⟨_, rfl⟩
              | cons first others =>
                  by_cases hname : name = first
                  · subst hname
                    simp only [at?, hget] at hhere
                    simpa [put, at?, Table.get?_set, hget] using ih hold hhere
                  · simp only [at?] at hhere
                    simp only [put, at?, Table.get?_set, if_neg hname]
                    exact ⟨other, hhere⟩

theorem folder_entries_put (new root : Folder) (names : List String) :
    .folder (put (.folder new) names (.folder root)).entries =
      put (.folder new) names (.folder root) := by
  cases names <;> rfl

end Entry

namespace Folder

/-- The same components lead to the same place where all folders are still there. -/
theorem locate_mono {root left : Folder}
    (hfolders : ∀ here folder, entryAt? root here = some (.folder folder) →
      ∃ other, entryAt? left here = some (.folder other))
    {here components names : List String} (h : locate root here components = .ok names) :
    locate left here components = .ok names := by
  induction components generalizing here with
  | nil => exact h
  | cons component rest ih =>
      cases hentry : entryAt? root here with
      | none => simp [locate, hentry] at h
      | some e =>
          cases e with
          | file bytes => simp [locate, hentry] at h
          | folder entries =>
              obtain ⟨other, hother⟩ := hfolders here entries hentry
              simp only [locate, hentry] at h
              simp only [locate, hother]
              cases hstep : step here component with
              | error fault => simp [hstep, bind, Except.bind] at h
              | ok next =>
                  simp only [hstep, bind, Except.bind] at h ⊢
                  exact ih h

theorem entryAt?_of_at? {root : Folder} {place : List String} {e : Entry}
    (h : Entry.at? (.folder root) place = some e) : entryAt? root place = some e := by
  rw [entryAt?, h, Option.some_or]

theorem entryAt?_of_at?_eq_none {root : Folder} {place : List String} {e : Entry}
    (h : Entry.at? (.folder root) place = none) (he : entryAt? root place = some e) :
    place = [outside] ∧ e = .folder [] := by
  rw [entryAt?, h, Option.none_or] at he
  split at he
  · exact ⟨‹_›, (Option.some.inj he).symm⟩
  · simp at he

theorem get?_outside_of_at? {root : Folder} (h : Entry.at? (.folder root) [outside] = none) :
    Table.get? root outside = none := by
  cases hget : Table.get? root outside with
  | none => rfl
  | some e => simp [Entry.at?, hget] at h

theorem entryAt?_outside {root : Folder} (h : Table.get? root outside = none) :
    entryAt? root [outside] = some (.folder []) := by
  simp [entryAt?, Entry.at?, h]

theorem entryAt?_put {root folder : Folder} {names : List String}
    (h : entryAt? root names = some (.folder folder)) (new : Folder) :
    entryAt? (Entry.put (.folder new) names (.folder root)).entries names =
      some (.folder new) := by
  apply entryAt?_of_at?
  rw [Entry.folder_entries_put]
  cases hat : Entry.at? (.folder root) names with
  | some e => exact Entry.at?_put _ hat
  | none =>
      obtain ⟨rfl, -⟩ := entryAt?_of_at?_eq_none hat h
      simp [Entry.put, Entry.at?, Table.get?_set]

/-- Where a folder is replaced by one that retains its folders, all folders are still
there. -/
theorem entryAt?_put_folder {root folder new : Folder} {names : List String}
    (h : entryAt? root names = some (.folder folder)) (hretains : folder.Retains new)
    {here : List String} {other : Folder}
    (hhere : entryAt? root here = some (.folder other)) :
    ∃ left, entryAt? (Entry.put (.folder new) names (.folder root)).entries here =
      some (.folder left) := by
  cases hat : Entry.at? (.folder root) names with
  | some e =>
      obtain rfl := Option.some.inj ((entryAt?_of_at? hat).symm.trans h)
      cases hhereAt : Entry.at? (.folder root) here with
      | some e =>
          obtain rfl := Option.some.inj ((entryAt?_of_at? hhereAt).symm.trans hhere)
          obtain ⟨left, hleft⟩ := Entry.at?_put_folder hat hretains hhereAt
          exact ⟨left, entryAt?_of_at? (by rw [Entry.folder_entries_put, hleft])⟩
      | none =>
          obtain ⟨rfl, -⟩ := entryAt?_of_at?_eq_none hhereAt hhere
          have hroot := get?_outside_of_at? hhereAt
          refine ⟨[], ?_⟩
          cases names with
          | nil =>
              obtain rfl := Entry.folder.inj (Option.some.inj hat)
              exact entryAt?_outside (hretains.outside_eq hroot)
          | cons name rest =>
              have hname : name ≠ outside := by
                rintro rfl
                simp [Entry.at?, hroot] at hat
              apply entryAt?_outside
              simpa [Entry.put, Entry.entries, Table.get?_set, hname] using hroot
  | none =>
      obtain ⟨rfl, -⟩ := entryAt?_of_at?_eq_none hat h
      have hroot := get?_outside_of_at? hat
      cases here with
      | nil => exact ⟨_, rfl⟩
      | cons first others =>
          by_cases hfirst : outside = first
          · subst hfirst
            have hnone : Entry.at? (.folder root) (outside :: others) = none := by
              simp [Entry.at?, hroot]
            obtain ⟨hothers, -⟩ := entryAt?_of_at?_eq_none hnone hhere
            rw [hothers]
            exact ⟨new, entryAt?_put h new⟩
          · refine ⟨other, ?_⟩
            rw [← hhere]
            simp [entryAt?, Entry.put, Entry.entries, Entry.at?, Table.get?_set, hfirst]

end Folder

namespace ScriptStore

variable {store : ScriptStore} {root folder : Folder}

theorem folder?_eq_some_iff :
    store.folder? root = some folder ↔ ∃ names, Folder.place root store.directory = .ok names ∧
      Folder.entryAt? root names = some (.folder folder) := by
  unfold folder? Folder.find
  cases hplace : Folder.place root store.directory with
  | error fault => simp [bind, Except.bind]
  | ok names =>
      cases hentry : Folder.entryAt? root names with
      | none => simp [bind, Except.bind, hentry]
      | some e => cases e <;> simp [bind, Except.bind, hentry]

/-- The store finds the folder that it has put back. -/
theorem folder?_replace_of_retains (h : store.folder? root = some folder) {new : Folder}
    (hretains : folder.Retains new) : store.folder? (store.replace root new) = some new := by
  obtain ⟨names, hplace, hentry⟩ := folder?_eq_some_iff.mp h
  rw [replace, hplace, folder?_eq_some_iff]
  refine ⟨names, ?_, Folder.entryAt?_put hentry new⟩
  unfold Folder.place at hplace ⊢
  cases hfault : store.directory.fault? with
  | some fault => simp [hfault] at hplace
  | none =>
      simp only [hfault] at hplace ⊢
      apply Folder.locate_mono _ hplace
      intro here other hhere
      exact Folder.entryAt?_put_folder hentry hretains hhere

theorem folder?_replace (h : store.folder? root = some folder) (hfiles : folder.FilesOnly)
    {new : Folder} (hnew : Table.get? new Folder.outside = none) :
    store.folder? (store.replace root new) = some new :=
  folder?_replace_of_retains h (hfiles.retains hnew)

theorem makeFolder_of_folder? (h : store.folder? root = some folder) :
    Folder.makeFolder root store.directory = (root, .ok ()) := by
  obtain ⟨names, hplace, hentry⟩ := folder?_eq_some_iff.mp h
  have hmake : Folder.makeOne root store.directory = .error .exists := by
    simp [Folder.makeOne, hplace, hentry, bind, Except.bind]
  have hensure : Folder.ensureOne root store.directory = (root, .ok ()) := by
    have hhas : Folder.hasFolder root store.directory = true := by
      simp [Folder.hasFolder, Folder.find, hplace, hentry, bind, Except.bind]
    simp [Folder.ensureOne, hmake, hhas]
  cases hback : store.directory.components.reverse with
  | nil =>
      have hpath : store.directory = ⟨store.directory.root, []⟩ := by
        rw [← List.reverse_eq_nil_iff.mp hback]
      rw [Folder.makeFolder, hback, Folder.makeLevels, ← hpath, hensure]
  | cons last above =>
      have hpath : store.directory = ⟨store.directory.root, (last :: above).reverse⟩ := by
        rw [← hback, List.reverse_reverse]
      rw [Folder.makeFolder, hback, levelLimit, Folder.makeLevels, ← hpath, hmake]
      exact hensure

end ScriptStore

end BrowserFlow.Store
