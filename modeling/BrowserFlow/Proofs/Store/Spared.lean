import BrowserFlow.Proofs.Store.Failed
import BrowserFlow.Proofs.Store.Listing
import BrowserFlow.Proofs.Store.Stock

/-!
# What a save does to other scripts

What is listed goes by the scripts in the folder, and what slug is taken goes by the documents.
So a save spares the files of all scripts that are listed under other names, except those of
one that has no document: its slug counts as free, and a save that finds it puts its own files
there (`ScriptStore.spares_iff`).
-/

namespace BrowserFlow.Store

open Editor (SaveRequest)

theorem exists_of_mem_mapM {α β ε : Type} {f : α → Except ε β} {items : List α} {values : List β}
    (h : items.mapM f = .ok values) :
    (∀ item ∈ items, ∃ value ∈ values, f item = .ok value) ∧
      ∀ value ∈ values, ∃ item ∈ items, f item = .ok value := by
  induction items generalizing values with
  | nil =>
      obtain rfl := Except.ok.inj h
      simp
  | cons item items ih =>
      rw [List.mapM_cons] at h
      cases hitem : f item with
      | error e => simp [hitem, bind, Except.bind] at h
      | ok value =>
          cases hrest : items.mapM f with
          | error e => simp [hitem, hrest, bind, Except.bind] at h
          | ok rest =>
              simp only [hitem, hrest, bind, Except.bind, pure, Except.pure, Except.ok.injEq] at h
              subst h
              obtain ⟨hitems, hvalues⟩ := ih hrest
              simp only [List.mem_cons, forall_eq_or_imp, exists_eq_or_imp]
              exact ⟨⟨.inl hitem, fun a ha => .inr (hitems a ha)⟩,
                ⟨.inl hitem, fun b hb => .inr (hvalues b hb)⟩⟩

theorem exists_mapM_ok {α β ε : Type} {f : α → Except ε β} {items : List α}
    (h : ∀ item ∈ items, ∃ value, f item = .ok value) : ∃ values, items.mapM f = .ok values := by
  induction items with
  | nil => exact ⟨[], rfl⟩
  | cons item items ih =>
      rw [List.forall_mem_cons] at h
      obtain ⟨⟨value, hvalue⟩, hrest⟩ := h
      obtain ⟨values, hvalues⟩ := ih hrest
      refine ⟨value :: values, ?_⟩
      rw [List.mapM_cons, hvalue, hvalues]
      rfl

namespace ScriptStore

variable {store : ScriptStore} {root folder left : Folder} {request : SaveRequest}
  {file slug : String} {name : Json}

theorem mem_slugsIn_iff : slug ∈ slugsIn folder ↔ ∃ file ∈ Table.keys folder,
    ".py".toList.isSuffixOf file.toList = true ∧ Path.stemOf file = slug := by
  rw [slugsIn, (List.mergeSort_perm _ _).mem_iff, List.mem_map]
  simp only [List.mem_filter, and_assoc]

/-- A script in the folder that is listed under a name. -/
structure ListedAs (store : ScriptStore) (folder : Folder) (file : String) (name : Json) :
    Prop where
  mem_keys : file ∈ Table.keys folder
  isScript : ".py".toList.isSuffixOf file.toList = true
  name_eq : store.listedName folder (Path.stemOf file) = .ok name

/-- What is listed are the names of the scripts in the folder. -/
theorem mem_names_iff {listed : List Json} (hfolder : store.folder? root = some folder)
    (hlisted : store.names root = .ok listed) :
    name ∈ listed ↔ ∃ file, store.ListedAs folder file name := by
  rw [names, hfolder] at hlisted
  obtain ⟨hslugs, hnames⟩ := exists_of_mem_mapM hlisted
  constructor
  · intro hname
    obtain ⟨slug, hslug, hname⟩ := hnames name hname
    obtain ⟨file, hkeys, hscript, rfl⟩ := mem_slugsIn_iff.mp hslug
    exact ⟨file, hkeys, hscript, hname⟩
  · rintro ⟨file, hkeys, hscript, hname⟩
    obtain ⟨other, hother, heq⟩ := hslugs _ (mem_slugsIn_iff.mpr ⟨file, hkeys, hscript, rfl⟩)
    rw [hname] at heq
    rwa [Except.ok.inj heq]

/-- Each document in the folder is an object, whose name, if it has one, is a text that is not
empty. -/
def Labelled (store : ScriptStore) (folder : Folder) : Prop :=
  ∀ slug bytes, Table.get? folder (documentFile slug) = some (.file bytes) →
    ∃ fields, readDocument store.limits bytes = .ok (.object fields) ∧
      ∀ name, Table.get? fields "name" = some name → ∃ text, name = .text text ∧ text ≠ ""

/-- The script is put where another stands that has no document. -/
structure Displaces (store : ScriptStore) (folder : Folder) (request : SaveRequest)
    (file : String) : Prop where
  slug_eq : store.slugFor folder request.name = .ok (Path.stemOf file)
  alone : Table.get? folder (documentFile (Path.stemOf file)) = none

/-- Both files of a script are as they were, and its name is still listed. -/
structure Spares (folder left : Folder) (later : List Json) (file : String) (name : Json) :
    Prop where
  script_eq : Table.get? left file = Table.get? folder file
  document_eq : Table.get? left (documentFile (Path.stemOf file)) =
    Table.get? folder (documentFile (Path.stemOf file))
  mem_later : name ∈ later

/-! ## What is where after a save that succeeds -/

def withBoth (folder : Folder) (slug : String) (request : SaveRequest) : Folder :=
  Table.set (Table.set folder (scriptFile slug) (Catalogue.scriptEntry request))
    (documentFile slug) (Catalogue.documentEntry request)

theorem get?_withBoth_of_ne (hscript : file ≠ scriptFile slug)
    (hdocument : file ≠ documentFile slug) :
    Table.get? (withBoth folder slug request) file = Table.get? folder file := by
  rw [withBoth, Table.get?_set, if_neg hdocument.symm, Table.get?_set, if_neg hscript.symm]

theorem get?_withBoth_documentFile :
    Table.get? (withBoth folder slug request) (documentFile slug) =
      some (Catalogue.documentEntry request) := by
  rw [withBoth, Table.get?_set, if_pos rfl]

theorem get?_withBoth_documentFile_of_ne {other : String} (h : other ≠ slug) :
    Table.get? (withBoth folder slug request) (documentFile other) =
      Table.get? folder (documentFile other) :=
  get?_withBoth_of_ne (scriptFile_ne_documentFile slug other).symm (mt documentFile_injective h)

theorem get?_withBoth_script (hscript : ".py".toList.isSuffixOf file.toList = true)
    (hslug : slug ≠ "") (hstem : Path.stemOf file ≠ slug) :
    Table.get? (withBoth folder slug request) file = Table.get? folder file := by
  apply get?_withBoth_of_ne
  · rintro rfl
    exact hstem (stemOf_scriptFile hslug)
  · rintro rfl
    rw [isSuffixOf_documentFile] at hscript
    cases hscript

theorem folder?_save_of_ok (hfolder : store.folder? root = some folder) {answer : Json}
    (hsave : (store.save request root).result = .ok answer) :
    ∃ slug, store.slugFor folder request.name = .ok slug ∧ folder.IsFree (documentFile slug) ∧
      store.folder? (store.save request root).state = some (withBoth folder slug request) := by
  have hmake := makeFolder_of_folder? hfolder
  have hleft : store.folder? (store.save request root).state =
      some (store.writeBoth folder request).1 := folder?_save hmake hfolder
  cases store.writes folder request with
  | both slug slug_eq script_free whole storable document_free write_eq =>
      rw [write_eq] at hleft
      exact ⟨slug, slug_eq, document_free, hleft⟩
  | unclaimed _ _ write_eq | scriptTaken _ _ _ write_eq | unwritable _ _ _ _ _ write_eq
  | unstorable _ _ _ _ _ _ write_eq | documentTaken _ _ _ _ _ _ write_eq =>
      obtain ⟨failure, hfail⟩ := exists_result_save_of_error hmake hfolder write_eq
      rw [hsave] at hfail
      cases hfail

theorem slug_ne_empty_of_slugFor (h : store.slugFor folder request.name = .ok slug) :
    slug ≠ "" := by
  obtain ⟨-, n, rfl⟩ := usable_of_slugFor h
  exact candidate_ne_empty (slug_ne_empty request.name) n

/-- The name of a slug depends on its document alone. -/
theorem listedName_congr
    (h : Table.get? left (documentFile slug) = Table.get? folder (documentFile slug)) :
    store.listedName left slug = store.listedName folder slug := by
  unfold listedName ownerIn loadIn
  rw [h]

/-- What is listed can still be listed once both files are there, if the document can be read. -/
theorem exists_listedName_withBoth (hfits : store.Fits slug) (hslug : slug ≠ "")
    {fields : Table Json}
    (hread : readDocument store.limits (Text.Utf8.encode (storedText request).toList) =
      .ok (.object fields))
    (hlisted : ∀ other ∈ slugsIn folder, ∃ name, store.listedName folder other = .ok name)
    {other : String} (hother : other ∈ slugsIn (withBoth folder slug request)) :
    ∃ name, store.listedName (withBoth folder slug request) other = .ok name := by
  by_cases hne : other = slug
  · have howner := ownerIn_of_document hfits
      (get?_withBoth_documentFile : Table.get? (withBoth folder slug request) _ = _) hread
    rw [hne, listedName, howner]
    exact ⟨_, rfl⟩
  · obtain ⟨file, hmem, hscript, rfl⟩ := mem_slugsIn_iff.mp hother
    rw [← Table.get?_isSome_iff, get?_withBoth_script hscript hslug hne, Table.get?_isSome_iff]
      at hmem
    rw [listedName_congr (get?_withBoth_documentFile_of_ne hne)]
    exact hlisted _ (mem_slugsIn_iff.mpr ⟨file, hmem, hscript, rfl⟩)

/-- A script under the slug that a save finds has no document, unless it is listed under the
name that is saved. -/
theorem alone_of_slugFor (hdocuments : store.Labelled folder)
    (hslug : store.slugFor folder request.name = .ok slug)
    (hfree : folder.IsFree (documentFile slug))
    (hname : store.listedName folder slug = .ok name) (hother : name ≠ .text request.name) :
    Table.get? folder (documentFile slug) = none := by
  obtain ⟨⟨owner, howner, husable⟩, -⟩ := usable_of_slugFor hslug
  cases hget : Table.get? folder (documentFile slug) with
  | none => rfl
  | some e =>
      cases e with
      | folder entries => exact absurd hget (hfree entries)
      | file bytes =>
          obtain ⟨fields, hread, hlabel⟩ := hdocuments slug bytes hget
          have hdocument := ownerIn_of_document (Catalogue.fits_of_ownerIn howner) hget hread
          obtain ⟨text, htext, hne⟩ : ∃ text,
              (Table.get? fields "name").getD (.text slug) = .text text ∧ text ≠ "" := by
            cases hfield : Table.get? fields "name" with
            | none => exact ⟨slug, rfl, slug_ne_empty_of_slugFor hslug⟩
            | some value => exact hlabel value hfield
          -- the slug is usable, so the name that its document has is the name itself
          rw [htext] at hdocument
          rw [hdocument] at howner
          rw [← Except.ok.inj howner, Catalogue.isUsable_text_iff] at husable
          have hlisted : store.listedName folder slug = .ok (.text text) := by
            simp [listedName, hdocument, Json.isBlank, hne, bind, Except.bind, pure, Except.pure]
          rw [hname, husable] at hlisted
          exact absurd (Except.ok.inj hlisted) hother

/-- A save that succeeds spares each script that is listed under another name, unless it
displaces it: then the script has no document, and the save finds its slug free. -/
theorem spares_iff (hfolder : store.folder? root = some folder)
    (hdocuments : store.Labelled folder) {listed : List Json}
    (hlisted : store.names root = .ok listed)
    (hadmits : ∀ node ∈ request.nodes, ∀ field : Field, field.Admits (node.params.get field))
    (hnum : ∀ node ∈ request.nodes, node.position.isNumeric = true)
    (hdigits : ∀ n ∈ (flowOf request).toJson.wholeNumbers,
      Json.Limits.allows store.limits.digits (Binary64.digitCount n.natAbs) = true)
    (hdepth : Json.Limits.allows store.limits.depth 4 = true) {answer : Json}
    (hsave : (store.save request root).result = .ok answer) :
    ∃ left later, store.folder? (store.save request root).state = some left ∧
      store.names (store.save request root).state = .ok later ∧
      ∀ file name, store.ListedAs folder file name → name ≠ .text request.name →
        (Spares folder left later file name ↔ ¬ store.Displaces folder request file) := by
  obtain ⟨slug, hslug, hfree, hleft⟩ := folder?_save_of_ok hfolder hsave
  obtain ⟨fields, hread⟩ : ∃ fields, readDocument store.limits
      (Text.Utf8.encode (storedText request).toList) = .ok (.object fields) :=
    ⟨_, readDocument_eq_reread hdepth hadmits hnum hdigits⟩
  have hne := slug_ne_empty_of_slugFor hslug
  have hnames := hlisted
  rw [names, hfolder] at hnames
  have hbefore : ∀ other ∈ slugsIn folder, ∃ name, store.listedName folder other = .ok name :=
    fun other hmem => ((exists_of_mem_mapM hnames).1 other hmem).imp fun _ h => h.2
  obtain ⟨later, hmapM⟩ := exists_mapM_ok fun other hmem =>
    exists_listedName_withBoth (fits_of_slugFor hslug).1 hne hread hbefore hmem
  have hlater : store.names (store.save request root).state = .ok later := by
    rw [names, hleft]
    exact hmapM
  refine ⟨_, later, hleft, hlater, ?_⟩
  intro file name hfile hother
  by_cases hstem : Path.stemOf file = slug
  · have hname := hfile.name_eq
    rw [hstem] at hname
    have halone := alone_of_slugFor hdocuments hslug hfree hname hother
    constructor
    · intro hspares
      have hdocument := hspares.document_eq
      rw [hstem, halone, get?_withBoth_documentFile] at hdocument
      cases hdocument
    · intro hnot
      rw [← hstem] at hslug halone
      exact absurd ⟨hslug, halone⟩ hnot
  · have hscript : Table.get? (withBoth folder slug request) file = Table.get? folder file :=
      get?_withBoth_script hfile.isScript hne hstem
    have hdocument : Table.get? (withBoth folder slug request) (documentFile (Path.stemOf file)) =
        Table.get? folder (documentFile (Path.stemOf file)) :=
      get?_withBoth_documentFile_of_ne hstem
    constructor
    · intro _ hdisplaces
      exact hstem (Except.ok.inj (hdisplaces.slug_eq.symm.trans hslug))
    · intro _
      refine ⟨hscript, hdocument, (mem_names_iff hleft hlater).mpr ⟨file, ?_, hfile.isScript, ?_⟩⟩
      · rw [← Table.get?_isSome_iff, hscript, Table.get?_isSome_iff]
        exact hfile.mem_keys
      · rw [listedName_congr hdocument]
        exact hfile.name_eq

/-- A script with its document is spared by a save under another name that has its slug. -/
theorem spares_iff_log_in :
    let store : ScriptStore := { directory := ⟨"", ["scripts"]⟩ }
    let request : SaveRequest := ⟨"log-in", "other", [], []⟩
    let document := "\x7b\x22name\x22: \x22Log In\x22\x7d"
    let folder : Folder := [("log-in.py", .file (Text.Utf8.encode "first".toList)),
      ("log-in.json", .file (Text.Utf8.encode document.toList))]
    let root : Folder := [("scripts", .folder folder)]
    ∃ left later, store.folder? (store.save request root).state = some left ∧
      store.names (store.save request root).state = .ok later ∧
      Spares folder left later "log-in.py" (.text "Log In") := by
  intro store request document folder root
  have hfolder : store.folder? root = some folder :=
    folder?_eq_some_iff.mpr ⟨["scripts"], by decide, rfl⟩
  have hdocuments : store.Labelled folder := by
    intro slug bytes hget
    have hread : readDocument store.limits (Text.Utf8.encode document.toList) =
        .ok (.object [("name", .text "Log In")]) := eq_ok_of_toOption (by decide +kernel)
    have hmem := Table.mem_of_get? hget
    simp only [folder, List.mem_cons, Prod.mk.injEq, List.not_mem_nil, or_false] at hmem
    rcases hmem with ⟨hscript, -⟩ | ⟨-, hbytes⟩
    · exact absurd hscript.symm (scriptFile_ne_documentFile "log-in" slug)
    · rw [Entry.file.inj hbytes]
      exact ⟨_, hread, by simp [Table.get?]⟩
  have hlisted : store.names root = .ok [.text "Log In"] := eq_ok_of_toOption (by decide +kernel)
  have hsave : (store.save request root).result = .ok (store.answerTo request "log-in-2") :=
    eq_ok_of_toOption (by decide +kernel)
  have hname : store.listedName folder (Path.stemOf "log-in.py") = .ok (.text "Log In") :=
    eq_ok_of_toOption (by decide +kernel)
  obtain ⟨left, later, hleft, hlater, hspares⟩ := spares_iff hfolder hdocuments hlisted
    (by simp [request]) (by simp [request]) (fun _ _ => rfl) rfl hsave
  refine ⟨left, later, hleft, hlater,
    (hspares "log-in.py" _ ⟨by simp [folder, Table.keys], by decide, hname⟩ (by decide)).mpr ?_⟩
  intro hdisplaces
  have hstem : Path.stemOf "log-in.py" = "log-in" := by decide +kernel
  have halone := hdisplaces.alone
  rw [hstem] at halone
  cases halone

/-- A script without a document is listed under its slug. A save under another name that has
the slug puts its own script there, and the first name is gone. -/
theorem not_spares_lone :
    let store : ScriptStore := { directory := ⟨"", ["scripts"]⟩ }
    let request : SaveRequest := ⟨"Foo", "other", [], []⟩
    let folder : Folder := [("foo.py", .file (Text.Utf8.encode "first".toList))]
    let root : Folder := [("scripts", .folder folder)]
    store.folder? root = some folder ∧ store.Labelled folder ∧
      store.names root = .ok [.text "foo"] ∧
      (store.save request root).result = .ok (store.answerTo request "foo") ∧
      store.names (store.save request root).state = .ok [.text "Foo"] ∧
      ∃ left, store.folder? (store.save request root).state = some left ∧
        Table.get? left "foo.py" = some (.file (Text.Utf8.encode "other".toList)) := by
  intro store request folder root
  have hfolder : store.folder? root = some folder :=
    folder?_eq_some_iff.mpr ⟨["scripts"], by decide, rfl⟩
  have hdocuments : store.Labelled folder := by
    intro slug bytes hget
    have hmem := Table.mem_of_get? hget
    simp only [folder, List.mem_singleton, Prod.mk.injEq] at hmem
    exact absurd hmem.1.symm (scriptFile_ne_documentFile "foo" slug)
  have hslug : store.slugFor folder request.name = .ok "foo" :=
    eq_ok_of_toOption (by decide +kernel)
  have hsave : (store.save request root).result = .ok (store.answerTo request "foo") :=
    eq_ok_of_toOption (by decide +kernel)
  obtain ⟨slug, hfound, -, hleft⟩ := folder?_save_of_ok hfolder hsave
  obtain rfl := Except.ok.inj (hslug.symm.trans hfound)
  exact ⟨hfolder, hdocuments, eq_ok_of_toOption (by decide +kernel), hsave,
    eq_ok_of_toOption (by decide +kernel), _, hleft, rfl⟩

end ScriptStore

end BrowserFlow.Store
