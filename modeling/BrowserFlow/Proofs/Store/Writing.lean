import BrowserFlow.Proofs.Json.Printed
import BrowserFlow.Proofs.Store.Folder
import BrowserFlow.Proofs.Store.Slug

/-!
# What a save writes

Both files of a request are written one after the other, the script first, once a slug is
found. `ScriptStore.Writes` tells the six ways in which this can end, and what the folder
has then: all that is proved about a save, in whatever folder, goes by cases on them. A
document is always ASCII, so only a script can be without bytes; but the document may have no
text within the limits, which turns out when the script is there.
-/

namespace BrowserFlow.Store

open Editor (SaveRequest)

theorem printed_storedText (request : SaveRequest) : Text.Printed (storedText request).toList := by
  apply Json.printed_render
  rintro unit hunit
  obtain rfl := Option.some.inj hunit
  exact Text.Printed.replicate (by decide) _

theorem writing_of_isWhole {text : String} (h : Text.isWhole text.toList = true) :
    Entry.writing text = (.file (Text.Utf8.encode text.toList), none) := by
  rw [Entry.writing, Text.Utf8.unwritable?_eq_none_iff.mpr h]

theorem writing_storedText (request : SaveRequest) :
    Entry.writing (storedText request) =
      (.file (Text.Utf8.encode (storedText request).toList), none) :=
  writing_of_isWhole (Text.isWhole_of_printed (printed_storedText request))

def Storable (limits : Json.Limits) (request : SaveRequest) : Prop :=
  Json.checkText limits (storedDocument request) = .ok ()

theorem Storable.storedTextWithin_eq {limits : Json.Limits} {request : SaveRequest}
    (h : Storable limits request) : storedTextWithin limits request = .ok (storedText request) := by
  rw [storedTextWithin, h]
  rfl

theorem storedTextWithin_of_error {limits : Json.Limits} {request : SaveRequest}
    {excess : Json.Excess} (h : Json.checkText limits (storedDocument request) = .error excess) :
    storedTextWithin limits request = .error excess := by
  rw [storedTextWithin, h]
  rfl

theorem scriptFile_ne_outside (slug : String) : scriptFile slug ≠ Folder.outside := by
  intro h
  have hlast := congrArg (fun name => name.toList.getLast?) h
  simp [Folder.outside, scriptFile] at hlast

theorem documentFile_ne_outside (slug : String) : documentFile slug ≠ Folder.outside := by
  intro h
  have hlast := congrArg (fun name => name.toList.getLast?) h
  simp [Folder.outside, documentFile] at hlast

namespace ScriptStore

variable {store : ScriptStore} {folder : Folder} {name text : String}

theorem writeIn_of_isFree (h : folder.IsFree name) :
    store.writeIn folder name text = (Table.set folder name (Entry.writing text).1,
      match (Entry.writing text).2 with
      | none => .ok ()
      | some u => .error (.unwritable u)) := by
  unfold writeIn
  split
  · rename_i entries hget
    exact absurd hget (h entries)
  · rfl

theorem writeIn_of_not_isFree (h : ¬ folder.IsFree name) :
    store.writeIn folder name text = (folder, .error (store.entryFault name .isFolder)) := by
  obtain ⟨entries, hget⟩ := not_forall_not.mp h
  rw [writeIn, hget]

/-- How writing both files of a request ends, and what the folder has then. -/
inductive Writes (store : ScriptStore) (folder : Folder) (request : SaveRequest) : Prop
  /-- No slug is found, and nothing is written. -/
  | unclaimed (fault : StoreFault) (slug_eq : store.slugFor folder request.name = .error fault)
      (write_eq : store.writeBoth folder request = (folder, .error fault))
  /-- The script would take the place of a folder, and nothing is written. -/
  | scriptTaken (slug : String) (slug_eq : store.slugFor folder request.name = .ok slug)
      (taken : ¬ folder.IsFree (scriptFile slug))
      (write_eq : store.writeBoth folder request =
        (folder, .error (store.entryFault (scriptFile slug) .isFolder)))
  /-- The script has no bytes. Its file is left empty. -/
  | unwritable (slug : String) (u : Text.Encoding.Unwritable)
      (slug_eq : store.slugFor folder request.name = .ok slug)
      (free : folder.IsFree (scriptFile slug))
      (halves : Text.Utf8.unwritable? request.script.toList = some u)
      (write_eq : store.writeBoth folder request =
        (Table.set folder (scriptFile slug) (.file []), .error (.unwritable u)))
  /-- The document has no text within the limits. The script is left without it. -/
  | unstorable (slug : String) (excess : Json.Excess)
      (slug_eq : store.slugFor folder request.name = .ok slug)
      (free : folder.IsFree (scriptFile slug))
      (whole : Text.isWhole request.script.toList = true)
      (check_eq : Json.checkText store.limits (storedDocument request) = .error excess)
      (write_eq : store.writeBoth folder request =
        (Table.set folder (scriptFile slug) (.file (Text.Utf8.encode request.script.toList)),
          .error (.beyond excess)))
  /-- The document would take the place of a folder. The script is left without it. -/
  | documentTaken (slug : String) (slug_eq : store.slugFor folder request.name = .ok slug)
      (free : folder.IsFree (scriptFile slug))
      (whole : Text.isWhole request.script.toList = true)
      (storable : Storable store.limits request)
      (taken : ¬ folder.IsFree (documentFile slug))
      (write_eq : store.writeBoth folder request =
        (Table.set folder (scriptFile slug) (.file (Text.Utf8.encode request.script.toList)),
          .error (store.entryFault (documentFile slug) .isFolder)))
  /-- Both files are written. -/
  | both (slug : String) (slug_eq : store.slugFor folder request.name = .ok slug)
      (script_free : folder.IsFree (scriptFile slug))
      (whole : Text.isWhole request.script.toList = true)
      (storable : Storable store.limits request)
      (document_free : folder.IsFree (documentFile slug))
      (write_eq : store.writeBoth folder request =
        (Table.set
          (Table.set folder (scriptFile slug) (.file (Text.Utf8.encode request.script.toList)))
          (documentFile slug) (.file (Text.Utf8.encode (storedText request).toList)), .ok slug))

theorem isFree_set_iff {other : String} (h : name ≠ other) (bytes : List UInt8) :
    Folder.IsFree (Table.set folder name (.file bytes)) other ↔ folder.IsFree other := by
  unfold Folder.IsFree
  rw [Table.get?_set, if_neg h]

variable {request : SaveRequest} {slug : String}

theorem writeBoth_of_unclaimed {fault : StoreFault}
    (hslug : store.slugFor folder request.name = .error fault) :
    store.writeBoth folder request = (folder, .error fault) := by
  unfold writeBoth
  rw [hslug]

theorem writeBoth_of_documentTaken (hslug : store.slugFor folder request.name = .ok slug)
    (hfree : folder.IsFree (scriptFile slug)) (hwhole : Text.isWhole request.script.toList = true)
    (hstorable : Storable store.limits request)
    (htaken : ¬ folder.IsFree (documentFile slug)) :
    store.writeBoth folder request =
      (Table.set folder (scriptFile slug) (.file (Text.Utf8.encode request.script.toList)),
        .error (store.entryFault (documentFile slug) .isFolder)) := by
  -- the document's place is looked at once the script is there
  have hstill := mt (isFree_set_iff (scriptFile_ne_documentFile slug slug)
    (Text.Utf8.encode request.script.toList)).mp htaken
  unfold writeBoth
  simp only [hslug, writeIn_of_isFree hfree, writing_of_isWhole hwhole,
    hstorable.storedTextWithin_eq, writeIn_of_not_isFree hstill]

theorem writes (store : ScriptStore) (folder : Folder) (request : SaveRequest) :
    store.Writes folder request := by
  cases hslug : store.slugFor folder request.name with
  | error fault => exact .unclaimed fault hslug (writeBoth_of_unclaimed hslug)
  | ok slug =>
      by_cases hscript : folder.IsFree (scriptFile slug)
      · cases hunwritable : Text.Utf8.unwritable? request.script.toList with
        | some u =>
            have hwriting : Entry.writing request.script = (.file [], some u) := by
              rw [Entry.writing, hunwritable]
            refine .unwritable slug u hslug hscript hunwritable ?_
            unfold writeBoth
            simp only [hslug, writeIn_of_isFree hscript, hwriting]
        | none =>
            have hwhole := Text.Utf8.unwritable?_eq_none_iff.mp hunwritable
            cases hcheck : Json.checkText store.limits (storedDocument request) with
            | error excess =>
                refine .unstorable slug excess hslug hscript hwhole hcheck ?_
                unfold writeBoth
                simp only [hslug, writeIn_of_isFree hscript, writing_of_isWhole hwhole,
                  storedTextWithin_of_error hcheck]
            | ok _ =>
                have hstorable : Storable store.limits request := hcheck
                by_cases hdocument : folder.IsFree (documentFile slug)
                · have hstill := (isFree_set_iff (scriptFile_ne_documentFile slug slug)
                    (Text.Utf8.encode request.script.toList)).mpr hdocument
                  refine .both slug hslug hscript hwhole hstorable hdocument ?_
                  unfold writeBoth
                  simp only [hslug, writeIn_of_isFree hscript, writing_of_isWhole hwhole,
                    hstorable.storedTextWithin_eq, writeIn_of_isFree hstill, writing_storedText]
                · exact .documentTaken slug hslug hscript hwhole hstorable hdocument
                    (writeBoth_of_documentTaken hslug hscript hwhole hstorable hdocument)
      · refine .scriptTaken slug hslug hscript ?_
        unfold writeBoth
        simp only [hslug, writeIn_of_not_isFree hscript]

end ScriptStore

end BrowserFlow.Store
