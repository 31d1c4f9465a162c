import BrowserFlow.Proofs.Store.Saves

/-!
# Saves that fail

A save that fails has looked at the folder before it writes anything, so as a rule the folder
is as it was. The exceptions are the faults that come up when the script's file is there
already: the script has no bytes, the document has no text within the limits, or it would take
the place of a folder. The script's file is the only one that can be different then
(`ScriptStore.unchanged_of_failed_save_iff`).
-/

namespace BrowserFlow.Store

open Editor (SaveRequest)

theorem eq_ok_of_toOption {α ε : Type} {x : Except ε α} {a : α} (h : x.toOption = some a) :
    x = .ok a := by
  cases x with
  | error e => cases h
  | ok b => rw [Option.some.inj h]

namespace ScriptStore

variable {store : ScriptStore} {root made folder left : Folder} {request : SaveRequest}

/-- A save only puts files in the place of files, so all folders stay. -/
theorem retains_writeBoth (store : ScriptStore) (folder : Folder) (request : SaveRequest) :
    folder.Retains (store.writeBoth folder request).1 := by
  have hrefl := Folder.Retains.refl folder
  cases store.writes folder request with
  | unclaimed fault slug_eq write_eq =>
      rw [write_eq]
      exact hrefl
  | scriptTaken slug slug_eq taken write_eq =>
      rw [write_eq]
      exact hrefl
  | unwritable slug u slug_eq free halves write_eq =>
      rw [write_eq]
      exact hrefl.set (scriptFile_ne_outside slug) free _
  | unstorable slug excess slug_eq free whole check_eq write_eq =>
      rw [write_eq]
      exact hrefl.set (scriptFile_ne_outside slug) free _
  | documentTaken slug slug_eq free whole storable taken write_eq =>
      rw [write_eq]
      exact hrefl.set (scriptFile_ne_outside slug) free _
  | both slug slug_eq script_free whole storable document_free write_eq =>
      rw [write_eq]
      exact (hrefl.set (scriptFile_ne_outside slug) script_free _).set
        (documentFile_ne_outside slug) document_free _

theorem folder?_save (hmake : Folder.makeFolder root store.directory = (made, .ok ()))
    (hfolder : store.folder? made = some folder) :
    store.folder? (store.save request root).state = some (store.writeBoth folder request).1 := by
  rw [state_save hmake hfolder]
  exact folder?_replace_of_retains hfolder (store.retains_writeBoth folder request)

theorem exists_writeBoth_of_failed
    (hmake : Folder.makeFolder root store.directory = (made, .ok ()))
    (hfolder : store.folder? made = some folder) {failure : Failure}
    (hfail : (store.save request root).result = .error failure) :
    ∃ fault, (store.writeBoth folder request).2 = .error fault := by
  cases hwrite : store.writeBoth folder request with
  | mk left written =>
      cases written with
      | error fault => exact ⟨fault, rfl⟩
      | ok slug =>
          rw [result_save_of_ok hmake hfolder hwrite] at hfail
          cases hfail

/-- Writing that fails has set nothing, or the file of the script and nothing else. -/
theorem writeBoth_of_error {fault : StoreFault}
    (h : (store.writeBoth folder request).2 = .error fault) :
    ((store.writeBoth folder request).1 = folder ∧
      ∀ slug, store.slugFor folder request.name = .ok slug →
        ¬ folder.IsFree (scriptFile slug)) ∨
      ∃ slug, store.slugFor folder request.name = .ok slug ∧ folder.IsFree (scriptFile slug) ∧
        (Text.isWhole request.script.toList = false ∨ ¬ Storable store.limits request ∨
          ¬ folder.IsFree (documentFile slug)) ∧
        (store.writeBoth folder request).1 =
          Table.set folder (scriptFile slug) (Entry.writing request.script).1 := by
  cases store.writes folder request with
  | unclaimed fault slug_eq write_eq =>
      left
      simp [write_eq, slug_eq]
  | scriptTaken slug slug_eq taken write_eq =>
      left
      simpa [write_eq, slug_eq] using taken
  | unwritable slug u slug_eq free halves write_eq =>
      right
      have hhalves : Text.isWhole request.script.toList = false := by
        rw [← Bool.not_eq_true, ← Text.Utf8.unwritable?_eq_none_iff, halves]
        simp
      refine ⟨slug, slug_eq, free, Or.inl hhalves, ?_⟩
      rw [write_eq, Entry.writing, halves]
  | unstorable slug excess slug_eq free whole check_eq write_eq =>
      right
      have hunstorable : ¬ Storable store.limits request := by
        rw [Storable, check_eq]
        simp
      refine ⟨slug, slug_eq, free, Or.inr (Or.inl hunstorable), ?_⟩
      rw [write_eq, writing_of_isWhole whole]
  | documentTaken slug slug_eq free whole storable taken write_eq =>
      right
      refine ⟨slug, slug_eq, free, Or.inr (Or.inr taken), ?_⟩
      rw [write_eq, writing_of_isWhole whole]
  | both slug slug_eq script_free whole storable document_free write_eq =>
      rw [write_eq] at h
      cases h

/-- The save leaves a script under the slug, which was not there before, although it fails:
there are no bytes for the script, no text within the limits for the document, or no place. -/
structure LeavesScript (store : ScriptStore) (folder : Folder) (request : SaveRequest)
    (slug : String) : Prop where
  slug_eq : store.slugFor folder request.name = .ok slug
  free : folder.IsFree (scriptFile slug)
  differs : Table.get? folder (scriptFile slug) ≠ some (Entry.writing request.script).1
  cause : Text.isWhole request.script.toList = false ∨ ¬ Storable store.limits request ∨
    ¬ folder.IsFree (documentFile slug)

/-- A save that fails changes no file and adds none, unless it leaves a script, and then it
sets the file of the script alone. -/
theorem unchanged_of_failed_save_iff
    (hmake : Folder.makeFolder root store.directory = (made, .ok ()))
    (hfolder : store.folder? made = some folder) {failure : Failure}
    (hfail : (store.save request root).result = .error failure) :
    ∃ left, store.folder? (store.save request root).state = some left ∧
      ((∀ name, Table.get? left name = Table.get? folder name) ↔
        ∀ slug, ¬ store.LeavesScript folder request slug) ∧
      ∀ slug, store.LeavesScript folder request slug →
        left = Table.set folder (scriptFile slug) (Entry.writing request.script).1 := by
  obtain ⟨fault, hfault⟩ := exists_writeBoth_of_failed hmake hfolder hfail
  refine ⟨_, folder?_save hmake hfolder, ?_⟩
  rcases writeBoth_of_error hfault with ⟨hleft, htaken⟩ | ⟨slug, hslug, hfree, hcause, hleft⟩
  · have hnone : ∀ slug, ¬ store.LeavesScript folder request slug :=
      fun slug hleaves => htaken slug hleaves.slug_eq hleaves.free
    rw [hleft]
    exact ⟨⟨fun _ => hnone, fun _ _ => rfl⟩, fun slug hleaves => absurd hleaves (hnone slug)⟩
  · have hunique {other : String} (hleaves : store.LeavesScript folder request other) :
        slug = other := Except.ok.inj (hslug.symm.trans hleaves.slug_eq)
    rw [hleft]
    refine ⟨⟨?_, ?_⟩, ?_⟩
    · intro hsame other hleaves
      obtain rfl := hunique hleaves
      apply hleaves.differs
      rw [← hsame, Table.get?_set, if_pos rfl]
    · intro hnone name
      rw [Table.get?_set]
      split
      · rename_i hname
        by_contra hdiffers
        refine hnone slug ⟨hslug, hfree, ?_, hcause⟩
        rw [hname]
        exact Ne.symm hdiffers
      · rfl
    · intro other hleaves
      rw [hunique hleaves]

/-- A document that is no object is in the way. -/
theorem unchanged_of_failed_save_iff_malformed :
    let store : ScriptStore := { directory := ⟨"", ["scripts"]⟩ }
    let request : SaveRequest := ⟨"Log In", "first", [], []⟩
    let folder : Folder := [("log-in.json", .file (Text.Utf8.encode "[]".toList))]
    let root : Folder := [("scripts", .folder folder)]
    (∃ failure, (store.save request root).result = .error failure) ∧
      ∃ left, store.folder? (store.save request root).state = some left ∧
        ∀ name, Table.get? left name = Table.get? folder name := by
  intro store request folder root
  have hfolder : store.folder? root = some folder :=
    folder?_eq_some_iff.mpr ⟨["scripts"], by decide, rfl⟩
  have hmake := makeFolder_of_folder? hfolder
  have hnone : (store.slugFor folder request.name).toOption = none := by decide +kernel
  obtain ⟨fault, hfault⟩ : ∃ fault, store.slugFor folder request.name = .error fault := by
    cases hslug : store.slugFor folder request.name with
    | error fault => exact ⟨fault, rfl⟩
    | ok slug =>
        rw [hslug] at hnone
        cases hnone
  obtain ⟨failure, hfail⟩ :=
    exists_result_save_of_error hmake hfolder (writeBoth_of_unclaimed hfault)
  obtain ⟨left, hleft, hsame, -⟩ := unchanged_of_failed_save_iff hmake hfolder hfail
  refine ⟨⟨failure, hfail⟩, left, hleft, hsame.mpr ?_⟩
  intro slug hleaves
  rw [hleaves.slug_eq] at hfault
  cases hfault

/-- A folder takes the place of the document. The save fails, and its script is there from
then on. -/
theorem not_unchanged_document_taken :
    let store : ScriptStore := { directory := ⟨"", ["scripts"]⟩ }
    let request : SaveRequest := ⟨"Log In", "first", [], []⟩
    let folder : Folder := [("log-in.json", .folder [])]
    let root : Folder := [("scripts", .folder folder)]
    store.folder? root = some folder ∧
      (∃ failure, (store.save request root).result = .error failure) ∧
      ∃ left, store.folder? (store.save request root).state = some left ∧
        Table.get? folder "log-in.py" = none ∧
        Table.get? left "log-in.py" = some (.file (Text.Utf8.encode "first".toList)) := by
  intro store request folder root
  have hfolder : store.folder? root = some folder :=
    folder?_eq_some_iff.mpr ⟨["scripts"], by decide, rfl⟩
  have hmake := makeFolder_of_folder? hfolder
  have hslug : store.slugFor folder request.name = .ok "log-in" :=
    eq_ok_of_toOption (by decide +kernel)
  have hfree : folder.IsFree (scriptFile "log-in") := by
    intro entries
    simp [folder, Table.get?, scriptFile]
  have hstorable : Storable store.limits request := rfl
  have htaken : ¬ folder.IsFree (documentFile "log-in") := fun h => h [] rfl
  have hwrite := writeBoth_of_documentTaken hslug hfree (by decide) hstorable htaken
  refine ⟨hfolder, exists_result_save_of_error hmake hfolder hwrite, _,
    folder?_save hmake hfolder, rfl, ?_⟩
  rw [hwrite]
  rfl

end ScriptStore

end BrowserFlow.Store
