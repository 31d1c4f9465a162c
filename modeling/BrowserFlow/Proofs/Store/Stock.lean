import BrowserFlow.Proofs.Document.Joined
import BrowserFlow.Proofs.Store.Place
import BrowserFlow.Proofs.Store.Saves

/-!
# What saves leave in a folder

Saves of flows that can be read back (`Recordable`) leave a folder all of whose documents
are read as objects, and no more of them than there were saves (`Stocked`). Saves that fail
halfway keep this as well, so it holds after every run (`Stocks.after`). A save into such a
folder is answered if its script has no halves and the slugs fit that it may have to look
at, and fails otherwise (`Stocks.save_cases`). Once it is `Answered`, both files are there
under the slug that the answer tells, and are read from there (`Answered.reads`).
-/

namespace BrowserFlow.Store

open Editor (SaveRequest)
open Json (ReadsBack)

/-- A flow of proper values whose document can be read within limits: its floating-point
numbers are read back, and its whole numbers are not too long. -/
structure Recordable (limits : Json.Limits) (g : Graph) : Prop where
  admits : ∀ node ∈ g.nodes, ∀ field : Field, field.Admits (node.params.get field)
  isNumeric : ∀ node ∈ g.nodes, node.position.isNumeric = true
  floats : ∀ node ∈ g.nodes, ∀ x : Binary64,
    .number (.float x) ∈ [node.position.x, node.position.y] → ReadsBack x
  digits : ∀ n ∈ g.toJson.wholeNumbers,
    Json.Limits.allows limits.digits (Binary64.digitCount n.natAbs) = true

def flowOf (request : SaveRequest) : Graph := ⟨request.nodes, request.edges⟩

theorem storedDocument_eq (request : SaveRequest) :
    storedDocument request = Document.named (.text request.name) (flowOf request) := rfl

theorem checkNumbers_of_short {limits : Json.Limits} {ns : List Int}
    (h : ∀ n ∈ ns, Json.Limits.allows limits.digits (Binary64.digitCount n.natAbs) = true) :
    Json.checkNumbers limits ns = .ok () := by
  rcases Json.checkNumbers_cases limits ns with
    ⟨hok, -⟩ | ⟨limit, count, hlimit, hlong, -, n, hn, rfl⟩
  · exact hok
  · exact absurd hlong (Document.not_lt_of_allows hlimit (h n hn))

theorem spelled_storedDocument {R : Binary64 → Prop} {request : SaveRequest}
    (hadmits : ∀ node ∈ request.nodes, ∀ field : Field, field.Admits (node.params.get field))
    (hnum : ∀ node ∈ request.nodes, node.position.isNumeric = true)
    (hfloats : ∀ node ∈ request.nodes, ∀ x : Binary64,
      .number (.float x) ∈ [node.position.x, node.position.y] → R x) :
    (storedDocument request).Spelled R fun _ => True := by
  have hfields := Document.spelled_documentFields (g := flowOf request) (P := fun _ => True)
    (fun _ => trivial) hadmits hnum (fun _ _ => trivial) hfloats
  refine Document.spelled_object ["name", "nodes", "edges"] rfl (by decide) (by decide) ?_
  exact List.forall_mem_cons.mpr ⟨.text trivial, hfields⟩

/-- A document is nested as deep as its flow. -/
theorem allows_depth_storedDocument {limits : Json.Limits}
    (hdepth : Json.Limits.allows limits.depth 4 = true) {request : SaveRequest}
    (hadmits : ∀ node ∈ request.nodes, ∀ field : Field, field.Admits (node.params.get field))
    (hnum : ∀ node ∈ request.nodes, node.position.isNumeric = true) :
    Json.Limits.allows limits.depth (storedDocument request).depth = true := by
  have hle : (flowOf request).toJson.depth ≤ 4 :=
    Document.extent_toJson_le (Nat.le_refl 0) hadmits hnum
  refine Json.Limits.allows_of_le (Nat.le_trans (Nat.le_of_eq ?_) hle) hdepth
  simp [storedDocument, Graph.toJson, Json.depth, Json.extent, Json.fieldsExtent, flowOf]

/-- What is stored for a flow of proper values is read, as an object, if its whole numbers are
not too long. Its floating-point numbers may be read as others. -/
theorem readDocument_eq_reread {limits : Json.Limits}
    (hdepth : Json.Limits.allows limits.depth 4 = true) {request : SaveRequest}
    (hadmits : ∀ node ∈ request.nodes, ∀ field : Field, field.Admits (node.params.get field))
    (hnum : ∀ node ∈ request.nodes, node.position.isNumeric = true)
    (hdigits : ∀ n ∈ (flowOf request).toJson.wholeNumbers,
      Json.Limits.allows limits.digits (Binary64.digitCount n.natAbs) = true) :
    readDocument limits (Text.Utf8.encode (storedText request).toList) =
      .ok (storedDocument request).reread.joined := by
  have hnamed : (storedDocument request).Named :=
    spelled_storedDocument hadmits hnum fun _ _ _ _ => trivial
  have hallows := allows_depth_storedDocument hdepth hadmits hnum
  have hnumbers : Json.checkNumbers limits (storedDocument request).wholeNumbers = .ok () :=
    checkNumbers_of_short hdigits
  have hblank : ∀ unit ∈ Json.spaces 2, Json.Blank unit := by
    rintro unit hunit c hc
    obtain rfl := Option.some.inj hunit
    rw [List.eq_of_mem_replicate hc]
    rfl
  have hread := Json.read_render_of_named hblank limits hnamed hallows
  rw [hnumbers] at hread
  rw [readDocument_eq_read, storedText, hread]
  rfl

theorem Recordable.storable {limits : Json.Limits}
    (hdepth : Json.Limits.allows limits.depth 4 = true) {request : SaveRequest}
    (h : Recordable limits (flowOf request)) : Storable limits request :=
  Json.checkText_of_wholesIn (allows_depth_storedDocument hdepth h.admits h.isNumeric) h.digits

/-- What is stored for a recordable flow is read, with its name, as the flow that it is
read back as. -/
theorem readDocument_of_recordable {limits : Json.Limits}
    (hdepth : Json.Limits.allows limits.depth 4 = true) {request : SaveRequest}
    (h : Recordable limits (flowOf request)) :
    readDocument limits (Text.Utf8.encode (storedText request).toList) =
      .ok (Document.named (.text (Json.joinedText request.name)) (flowOf request).joined) := by
  have hregular : (storedDocument request).Regular :=
    spelled_storedDocument h.admits h.isNumeric h.floats
  rw [readDocument_eq_reread hdepth h.admits h.isNumeric h.digits, hregular.reread_eq,
    storedDocument_eq, Document.joined_named _ h.isNumeric]
  rfl

theorem recordable_of_sound {limits : Json.Limits} {g : Graph} (hg : g.Sound)
    (hfloats : ∀ node ∈ g.nodes, ∀ x : Binary64,
      .number (.float x) ∈ [node.position.x, node.position.y] → ReadsBack x)
    (hdigits : ∀ n ∈ g.toJson.wholeNumbers,
      Json.Limits.allows limits.digits (Binary64.digitCount n.natAbs) = true) :
    Recordable limits g where
  admits := hg.admits
  isNumeric := hg.isNumeric
  floats := hfloats
  digits := hdigits

namespace ScriptStore

variable {store : ScriptStore} {root folder : Folder} {request : SaveRequest} {count : Nat}

/-- Each document in a folder of files is read as an object, and there are at most `count`
documents. -/
structure Stocked (store : ScriptStore) (folder : Folder) (count : Nat) : Prop where
  filesOnly : folder.FilesOnly
  outside : Table.get? folder Folder.outside = none
  readable : ∀ slug bytes, Table.get? folder (documentFile slug) = some (.file bytes) →
    ∃ fields, readDocument store.limits bytes = .ok (.object fields)
  few : ∃ files : List String, files.length ≤ count ∧
    ∀ slug, documentFile slug ∈ Table.keys folder → documentFile slug ∈ files

theorem fits_of_slugFor {name slug : String} (h : store.slugFor folder name = .ok slug) :
    store.Fits slug ∧ ∃ n, slug = candidate (Store.slug name) n := by
  obtain ⟨⟨owner, howner, -⟩, hcandidate⟩ := usable_of_slugFor h
  exact ⟨Catalogue.fits_of_ownerIn howner, hcandidate⟩

namespace Stocked

theorem nil (store : ScriptStore) : store.Stocked [] 0 where
  filesOnly := by simp [Folder.FilesOnly]
  outside := rfl
  readable := by simp
  few := ⟨[], Nat.le_refl 0, by simp [Table.keys]⟩

theorem mono (h : store.Stocked folder count) {more : Nat} (hle : count ≤ more) :
    store.Stocked folder more := by
  obtain ⟨files, hfiles, hall⟩ := h.few
  exact { h with few := ⟨files, Nat.le_trans hfiles hle, hall⟩ }

theorem set_script (h : store.Stocked folder count) (slug : String) (bytes : List UInt8) :
    store.Stocked (Table.set folder (scriptFile slug) (.file bytes)) count where
  filesOnly := h.filesOnly.set _ _
  outside := by rw [Table.get?_set, if_neg (scriptFile_ne_outside slug), h.outside]
  readable other bytes' hget := by
    rw [Table.get?_set, if_neg (scriptFile_ne_documentFile slug other)] at hget
    exact h.readable other bytes' hget
  few := by
    obtain ⟨files, hfiles, hall⟩ := h.few
    refine ⟨files, hfiles, fun other hmem => hall other ?_⟩
    rw [← Table.get?_isSome_iff, Table.get?_set,
      if_neg (scriptFile_ne_documentFile slug other)] at hmem
    exact Table.get?_isSome_iff.mp hmem

theorem set_document (h : store.Stocked folder count) (slug : String) {bytes : List UInt8}
    {fields : Table Json} (hread : readDocument store.limits bytes = .ok (.object fields)) :
    store.Stocked (Table.set folder (documentFile slug) (.file bytes)) (count + 1) where
  filesOnly := h.filesOnly.set _ _
  outside := by rw [Table.get?_set, if_neg (documentFile_ne_outside slug), h.outside]
  readable other bytes' hget := by
    rw [Table.get?_set] at hget
    split at hget
    · rw [← Entry.file.inj (Option.some.inj hget)]
      exact ⟨fields, hread⟩
    · exact h.readable other bytes' hget
  few := by
    obtain ⟨files, hfiles, hall⟩ := h.few
    refine ⟨documentFile slug :: files, Nat.succ_le_succ hfiles, fun other hmem => ?_⟩
    rw [← Table.get?_isSome_iff, Table.get?_set] at hmem
    split at hmem
    · rename_i hother
      rw [hother]
      exact List.mem_cons_self
    · exact List.mem_cons_of_mem _ (hall other (Table.get?_isSome_iff.mp hmem))

/-- A slug that fits has an owner or none, but is not refused. -/
theorem ownerIn_ok (h : store.Stocked folder count) {slug : String} (hfits : store.Fits slug) :
    ∃ owner, store.ownerIn folder slug = .ok owner := by
  cases hget : Table.get? folder (documentFile slug) with
  | none => exact ⟨.null, ownerIn_of_get?_eq_none hfits hget⟩
  | some e =>
      obtain ⟨bytes, rfl⟩ := h.filesOnly _ e hget
      obtain ⟨fields, hread⟩ := h.readable slug bytes hget
      exact ⟨_, ownerIn_of_document hfits hget hread⟩

/-- A name has a slug if as many fit as there are documents and one more. -/
theorem slugFor_ok (h : store.Stocked folder count) {name : String}
    (hfits : ∀ m, 1 ≤ m → m ≤ count + 1 → store.Fits (candidate (slug name) m)) :
    ∃ n, store.slugFor folder name = .ok (candidate (slug name) n) := by
  obtain ⟨n, hn, hpassed, ⟨fault, howner, -⟩ | ⟨-, hok⟩⟩ := slugFor_cases store folder name
  · -- Each slug before the one that is refused has a document, so there are few of them.
    obtain ⟨files, hfiles, hall⟩ := h.few
    have hbound : n ≤ 1 + files.length :=
      le_add_length_of_documentFile_mem fun m hm hlt => hall _ (hpassed m hm hlt).mem_keys
    obtain ⟨owner, hok⟩ := h.ownerIn_ok (hfits n hn (by omega))
    rw [howner] at hok
    cases hok
  · exact ⟨n, hok⟩

theorem writeBoth (h : store.Stocked folder count)
    (hrecord : Recordable store.limits (flowOf request))
    (hdepth : Json.Limits.allows store.limits.depth 4 = true) :
    store.Stocked (store.writeBoth folder request).1 (count + 1) := by
  have hread := readDocument_of_recordable hdepth hrecord
  rw [Catalogue.writeBoth_of_filesOnly h.filesOnly]
  cases store.slugFor folder request.name with
  | error fault => exact h.mono (Nat.le_succ count)
  | ok slug =>
      cases Text.Utf8.unwritable? request.script.toList with
      -- The script is opened before its halves are met, so an empty file is left.
      | some u => exact (h.set_script slug []).mono (Nat.le_succ count)
      | none =>
          rw [hrecord.storable hdepth]
          exact (h.set_script slug _).set_document slug hread

/-- What a save writes: both files under a slug that is found, if the script has no halves,
and less than that otherwise. -/
theorem writeBoth_cases (h : store.Stocked folder count)
    (hstorable : Storable store.limits request) :
    (∃ left slug, store.writeBoth folder request = (left, .ok slug) ∧
        Text.isWhole request.script.toList = true ∧ store.slugFor folder request.name = .ok slug ∧
        Table.get? left (scriptFile slug) = some (Catalogue.scriptEntry request) ∧
        Table.get? left (documentFile slug) = some (Catalogue.documentEntry request)) ∨
      ∃ left fault, store.writeBoth folder request = (left, .error fault) ∧
        (Text.isWhole request.script.toList = true →
          ∃ m, 1 ≤ m ∧ m ≤ count + 1 ∧ ¬ store.Fits (candidate (slug request.name) m)) := by
  rw [Catalogue.writeBoth_of_filesOnly h.filesOnly]
  cases hslug : store.slugFor folder request.name with
  | error fault =>
      refine Or.inr ⟨_, _, rfl, fun _ => ?_⟩
      by_contra hall
      obtain ⟨n, hok⟩ := h.slugFor_ok fun m hm hle => by
        by_contra hnot
        exact hall ⟨m, hm, hle, hnot⟩
      rw [hslug] at hok
      cases hok
  | ok slug =>
      cases hunwritable : Text.Utf8.unwritable? request.script.toList with
      | some u =>
          refine Or.inr ⟨_, _, rfl, fun hwhole => ?_⟩
          rw [Text.Utf8.unwritable?_eq_none_iff.mpr hwhole] at hunwritable
          cases hunwritable
      | none =>
          have hwhole := Text.Utf8.unwritable?_eq_none_iff.mp hunwritable
          rw [hstorable]
          refine Or.inl ⟨_, slug, rfl, hwhole, rfl, ?_, ?_⟩
          · rw [Table.get?_set, if_neg (scriptFile_ne_documentFile slug slug).symm,
              Table.get?_set, if_pos rfl]
          · rw [Table.get?_set, if_pos rfl]

end Stocked

/-- The folder of the store is there as soon as it is made, and is stocked. -/
def Stocks (store : ScriptStore) (root : Folder) (count : Nat) : Prop :=
  ∃ made folder, Folder.makeFolder root store.directory = (made, .ok ()) ∧
    store.folder? made = some folder ∧ store.Stocked folder count

theorem StartsEmpty.stocks (h : store.StartsEmpty root) : store.Stocks root 0 := by
  obtain ⟨made, hmake, hmade⟩ := h
  exact ⟨made, [], hmake, hmade, .nil store⟩

/-- A save that is answered has found a slug for a script without halves. It leaves both
files in the folder, and the answer tells the slug. -/
structure Answered (store : ScriptStore) (root : Folder) (request : SaveRequest) (slug : String) :
    Prop where
  isWhole : Text.isWhole request.script.toList = true
  fits : store.Fits slug
  isCandidate : ∃ n, slug = candidate (Store.slug request.name) n
  result_eq : (store.save request root).result = .ok (store.answerTo request slug)
  files : ∃ folder, store.folder? (store.save request root).state = some folder ∧
    Table.get? folder (scriptFile slug) = some (Catalogue.scriptEntry request) ∧
    Table.get? folder (documentFile slug) = some (Catalogue.documentEntry request)

/-- The answer to a save tells where the script is, and the document that is loaded under
its slug is what the flow is read back as. -/
theorem Answered.reads {slug : String} (h : store.Answered root request slug)
    (hdirectory : store.directory.Plain)
    (hrecord : Recordable store.limits (flowOf request))
    (hdepth : Json.Limits.allows store.limits.depth 4 = true) :
    let left := (store.save request root).state
    let path := store.directory.join (scriptFile slug)
    Path.ofString path.text = path ∧ path.stem = slug ∧
      Folder.readFile left path = .ok (Text.Utf8.encode request.script.toList) ∧
      store.load left slug =
        .ok (Document.named (.text (Json.joinedText request.name)) (flowOf request).joined) := by
  obtain ⟨n, rfl⟩ := h.isCandidate
  obtain ⟨folder, hfolder, hscript, hdocument⟩ := h.files
  have hslash := slash_notMem_candidate (slash_notMem_slug request.name) n
  have hcomponent := isComponent_scriptFile hslash
  obtain ⟨hpath, hname⟩ := fault?_scriptFile_of_fits h.fits hslash
  refine ⟨Path.ofString_text (hdirectory.join _), ?_, ?_, ?_⟩
  · rw [Path.stem_join hcomponent,
      stemOf_scriptFile (candidate_ne_empty (slug_ne_empty request.name) n)]
  · exact readFile_join hfolder hcomponent (scriptFile_ne_outside _) hpath hname hscript
  · rw [load_eq_readDocument hfolder hslash h.fits hdocument]
    exact readDocument_of_recordable hdepth hrecord

namespace Stocks

theorem stocks_of_stocked (hfolder : store.folder? root = some folder)
    (h : store.Stocked folder count) : store.Stocks root count :=
  ⟨root, folder, makeFolder_of_folder? hfolder, hfolder, h⟩

/-- What becomes of a save: it is answered if its script has no halves and a slug is found
for its name, and fails otherwise. -/
theorem save_cases (h : store.Stocks root count)
    (hrecord : Recordable store.limits (flowOf request))
    (hdepth : Json.Limits.allows store.limits.depth 4 = true) :
    store.Stocks (store.save request root).state (count + 1) ∧
      ((∃ slug, store.Answered root request slug) ∨
        (∃ failure, (store.save request root).result = .error failure) ∧
          (Text.isWhole request.script.toList = true →
            ∃ m, 1 ≤ m ∧ m ≤ count + 1 ∧ ¬ store.Fits (candidate (slug request.name) m))) := by
  obtain ⟨made, folder, hmake, hmade, hstock⟩ := h
  have hleft := hstock.writeBoth hrecord hdepth
  have hfound : store.folder? (store.save request root).state =
      some (store.writeBoth folder request).1 := by
    rw [state_save hmake hmade]
    exact folder?_replace hmade hstock.filesOnly hleft.outside
  refine ⟨stocks_of_stocked hfound hleft, ?_⟩
  rcases hstock.writeBoth_cases (hrecord.storable hdepth) with
    ⟨left, slug, hwrite, hwhole, hslug, hfiles⟩ | ⟨left, fault, hwrite, hunfit⟩
  · obtain ⟨hfits, hcandidate⟩ := fits_of_slugFor hslug
    rw [hwrite] at hfound
    exact Or.inl ⟨slug, hwhole, hfits, hcandidate, result_save_of_ok hmake hmade hwrite,
      left, hfound, hfiles⟩
  · exact Or.inr ⟨exists_result_save_of_error hmake hmade hwrite, hunfit⟩

theorem after (h : store.Stocks root count)
    (hdepth : Json.Limits.allows store.limits.depth 4 = true) (earlier : List SaveRequest)
    (hrecord : ∀ request ∈ earlier, Recordable store.limits (flowOf request)) :
    store.Stocks (store.after root earlier) (count + earlier.length) := by
  induction earlier generalizing root count with
  | nil => exact h
  | cons request earlier ih =>
      rw [List.forall_mem_cons] at hrecord
      rw [ScriptStore.after, List.length_cons, Nat.add_comm earlier.length, ← Nat.add_assoc]
      exact ih (h.save_cases hrecord.1 hdepth).1 hrecord.2

end Stocks

end ScriptStore

end BrowserFlow.Store
