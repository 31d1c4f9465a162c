import BrowserFlow.Proofs.Json.WholeNumbers
import BrowserFlow.Proofs.Store.Slug
import BrowserFlow.Proofs.Store.Writing
import BrowserFlow.Proofs.Table

/-!
# What a folder of scripts holds

A `Catalogue` has the saves that are in force under their slugs, and `Catalogue.folder` is
the folder of their files. A save that succeeds sets the catalogue at a slug, and the
folder with it (`Catalogue.writeBoth_folder`). The catalogues that saves lead to are
`Sound`: each slug was the first that was usable for its name, so those before it belong
to other names. Since no slug is ever given up, this lasts, a name finds its own slug
again, and two names never have the same (`Sound.set`, `Sound.slug_unique`).
-/

namespace BrowserFlow.Store

open Editor (SaveRequest)

def Readable (limits : Json.Limits) (request : SaveRequest) : Prop :=
  Json.read limits (storedText request).toList = .ok (storedDocument request)

/-- The document of a slug has a path that can be followed. -/
def ScriptStore.Fits (store : ScriptStore) (slug : String) : Prop :=
  (store.directory.join (documentFile slug)).fault? = none ∧ nameFault? (documentFile slug) = none

instance (limits : Json.Limits) (request : SaveRequest) : Decidable (Readable limits request) :=
  inferInstanceAs (Decidable (_ = _))

instance (store : ScriptStore) (slug : String) : Decidable (store.Fits slug) :=
  inferInstanceAs (Decidable (_ ∧ _))

/-- The text of a document is ASCII without line ends to fold, so it is read as it is. -/
theorem readDocument_eq_read (limits : Json.Limits) (request : SaveRequest) :
    readDocument limits (Text.Utf8.encode (storedText request).toList) =
      (Json.read limits (storedText request).toList).mapError .refused := by
  have hprinted := printed_storedText request
  rw [readDocument, Text.Utf8.decode_encode_of_ascii hprinted.toNat_lt, Journaled.mapError_ok]
  simp only [bind, Except.bind, Text.foldLineEnds_of_printed hprinted]

theorem readDocument_storedText {limits : Json.Limits} {request : SaveRequest}
    (h : Readable limits request) :
    readDocument limits (Text.Utf8.encode (storedText request).toList) =
      .ok (storedDocument request) := by
  rw [readDocument_eq_read, h, Journaled.mapError_ok]

/-- What is read back within limits was written within them. -/
theorem Readable.storable {limits : Json.Limits} {request : SaveRequest}
    (h : Readable limits request) : Storable limits request :=
  Json.checkText_of_read h

/-- The saves that are in force, by slug. -/
abbrev Catalogue := Table SaveRequest

namespace Catalogue

def scriptEntry (request : SaveRequest) : Entry := .file (Text.Utf8.encode request.script.toList)

def documentEntry (request : SaveRequest) : Entry :=
  .file (Text.Utf8.encode (storedText request).toList)

def folder (c : Catalogue) : Folder :=
  c.flatMap fun entry => [(scriptFile entry.1, scriptEntry entry.2),
    (documentFile entry.1, documentEntry entry.2)]

variable {c : Catalogue} {slug : String} {request : SaveRequest}

theorem folder_cons (entry : String × SaveRequest) (c : Catalogue) :
    folder (entry :: c) = (scriptFile entry.1, scriptEntry entry.2) ::
      (documentFile entry.1, documentEntry entry.2) :: folder c := rfl

theorem get?_folder_scriptFile (c : Catalogue) (slug : String) :
    Table.get? (folder c) (scriptFile slug) = (Table.get? c slug).map scriptEntry := by
  induction c with
  | nil => rfl
  | cons entry c ih =>
      obtain ⟨key, saved⟩ := entry
      rw [folder_cons, Table.get?, Table.get?, Table.get?, ih,
        if_neg (scriptFile_ne_documentFile slug key).symm]
      by_cases hkey : key = slug
      · simp [hkey]
      · simp [hkey, mt scriptFile_injective hkey]

theorem get?_folder_documentFile (c : Catalogue) (slug : String) :
    Table.get? (folder c) (documentFile slug) = (Table.get? c slug).map documentEntry := by
  induction c with
  | nil => rfl
  | cons entry c ih =>
      obtain ⟨key, saved⟩ := entry
      rw [folder_cons, Table.get?, Table.get?, Table.get?, ih,
        if_neg (scriptFile_ne_documentFile key slug)]
      by_cases hkey : key = slug
      · simp [hkey]
      · simp [hkey, mt documentFile_injective hkey]

/-- To write both files of a slug is to set the catalogue there. -/
theorem set_folder (c : Catalogue) (slug : String) (request : SaveRequest) :
    Table.set (Table.set (folder c) (scriptFile slug) (scriptEntry request)) (documentFile slug)
      (documentEntry request) = folder (Table.set c slug request) := by
  induction c with
  | nil => simp [folder, Table.set, scriptFile_ne_documentFile]
  | cons entry c ih =>
      obtain ⟨key, saved⟩ := entry
      by_cases hkey : key = slug
      · simp [folder_cons, Table.set, hkey, scriptFile_ne_documentFile]
      · have hscript : scriptFile key ≠ scriptFile slug := mt scriptFile_injective hkey
        have hdocument : documentFile key ≠ documentFile slug := mt documentFile_injective hkey
        simp [folder_cons, Table.set, hkey, hscript, hdocument, scriptFile_ne_documentFile,
          (scriptFile_ne_documentFile _ _).symm, ih]

theorem keys_folder (c : Catalogue) : Table.keys (folder c) =
    (Table.keys c).flatMap fun slug => [scriptFile slug, documentFile slug] := by
  simp [folder, Table.keys, List.map_flatMap, List.flatMap_map]

theorem mem_keys_folder {name : String} : name ∈ Table.keys (folder c) ↔
    ∃ slug ∈ Table.keys c, name = scriptFile slug ∨ name = documentFile slug := by
  simp [keys_folder]

theorem filesOnly_folder (c : Catalogue) : (folder c).FilesOnly := by
  intro name e h
  obtain ⟨entry, -, hmem⟩ := List.mem_flatMap.mp (Table.mem_of_get? h)
  simp only [List.mem_cons, List.not_mem_nil, or_false, Prod.mk.injEq] at hmem
  rcases hmem with ⟨-, rfl⟩ | ⟨-, rfl⟩
  · exact ⟨_, rfl⟩
  · exact ⟨_, rfl⟩

theorem get?_folder_outside (c : Catalogue) : Table.get? (folder c) Folder.outside = none := by
  rw [← Option.isNone_iff_eq_none, ← Option.isSome_eq_false_iff, ← Bool.not_eq_true,
    Table.get?_isSome_iff, mem_keys_folder]
  rintro ⟨slug, -, hname | hname⟩
  · exact scriptFile_ne_outside slug hname.symm
  · exact documentFile_ne_outside slug hname.symm

variable {store : ScriptStore}

def Readable (store : ScriptStore) (c : Catalogue) : Prop :=
  ∀ slug request, Table.get? c slug = some request → Store.Readable store.limits request

theorem loadIn_folder (hc : c.Readable store) (hfits : store.Fits slug) :
    store.loadIn (folder c) slug =
      .ok (match Table.get? c slug with
        | some request => storedDocument request
        | none => .null) := by
  obtain ⟨hpath, hname⟩ := hfits
  unfold ScriptStore.loadIn
  rw [hpath, hname, get?_folder_documentFile]
  cases hget : Table.get? c slug with
  | none => rfl
  | some request => exact readDocument_storedText (hc slug request hget)

theorem ownerIn_folder (hc : c.Readable store) (hfits : store.Fits slug) :
    store.ownerIn (folder c) slug =
      .ok (match Table.get? c slug with
        | some request => .text request.name
        | none => .null) := by
  rw [ScriptStore.ownerIn, loadIn_folder hc hfits]
  cases Table.get? c slug <;> rfl

theorem fits_of_ownerIn {folder : Folder} {owner : Json}
    (h : store.ownerIn folder slug = .ok owner) : store.Fits slug := by
  unfold ScriptStore.ownerIn ScriptStore.loadIn at h
  cases hfault : (store.directory.join (documentFile slug)).fault?.or
      (nameFault? (documentFile slug)) with
  | some fault => simp [hfault, bind, Except.bind] at h
  | none => exact Option.or_eq_none_iff.mp hfault

theorem isUsable_null (name : String) : isUsable name .null = true := by
  simp [isUsable]

theorem isUsable_text_iff {name owner : String} :
    isUsable name (.text owner) = true ↔ owner = name := by
  simp [isUsable]

/-- The search goes on where the slug is in force for another name. -/
theorem passed_folder_iff (hc : c.Readable store) {name : String} :
    store.Passed (folder c) name slug ↔
      store.Fits slug ∧ ∃ request, Table.get? c slug = some request ∧ request.name ≠ name := by
  constructor
  · rintro ⟨owner, howner, husable⟩
    have hfits := fits_of_ownerIn howner
    rw [ownerIn_folder hc hfits] at howner
    refine ⟨hfits, ?_⟩
    cases hget : Table.get? c slug with
    | none =>
        rw [hget] at howner
        rw [← Except.ok.inj howner, isUsable_null] at husable
        exact absurd husable (by decide)
    | some request =>
        rw [hget] at howner
        rw [← Except.ok.inj howner, ← Bool.not_eq_true, isUsable_text_iff] at husable
        exact ⟨request, rfl, husable⟩
  · rintro ⟨hfits, request, hget, hname⟩
    refine ⟨.text request.name, ?_, ?_⟩
    · rw [ownerIn_folder hc hfits, hget]
    · rw [← Bool.not_eq_true, isUsable_text_iff]
      exact hname

theorem mem_keys_of_passed (hc : c.Readable store) {name : String}
    (h : store.Passed (folder c) name slug) : slug ∈ Table.keys c := by
  obtain ⟨-, request, hget, -⟩ := (passed_folder_iff hc).mp h
  exact Table.mem_keys_iff.mpr ⟨request, hget⟩

/-- The search ends where the slug is free or in force for the name itself. -/
theorem usable_folder_iff (hc : c.Readable store) {name : String} :
    store.Usable (folder c) name slug ↔
      store.Fits slug ∧ ∀ request, Table.get? c slug = some request → request.name = name := by
  constructor
  · rintro ⟨owner, howner, husable⟩
    have hfits := fits_of_ownerIn howner
    rw [ownerIn_folder hc hfits] at howner
    refine ⟨hfits, ?_⟩
    intro request hget
    rw [hget] at howner
    rw [← Except.ok.inj howner, isUsable_text_iff] at husable
    exact husable
  · rintro ⟨hfits, hall⟩
    refine ⟨_, ownerIn_folder hc hfits, ?_⟩
    cases hget : Table.get? c slug with
    | none => exact isUsable_null name
    | some request => exact isUsable_text_iff.mpr (hall request hget)

/-- A save writes nothing, or an empty file for a script that has no bytes, or the script and,
unless it has no text within the limits, the document. -/
theorem writeBoth_of_filesOnly {folder : Folder} (hfiles : folder.FilesOnly)
    (store : ScriptStore) (request : SaveRequest) :
    store.writeBoth folder request =
      match store.slugFor folder request.name with
      | .error fault => (folder, .error fault)
      | .ok slug =>
        match Text.Utf8.unwritable? request.script.toList with
        | some u => (Table.set folder (scriptFile slug) (.file []), .error (.unwritable u))
        | none =>
          match Json.checkText store.limits (storedDocument request) with
          | .error excess =>
            (Table.set folder (scriptFile slug) (scriptEntry request), .error (.beyond excess))
          | .ok _ =>
            (Table.set (Table.set folder (scriptFile slug) (scriptEntry request))
              (documentFile slug) (documentEntry request), .ok slug) := by
  cases store.writes folder request with
  | unclaimed fault hslug hwrite => rw [hwrite, hslug]
  | scriptTaken slug hslug htaken hwrite => exact absurd (hfiles.isFree _) htaken
  | unwritable slug u hslug hfree hu hwrite => rw [hwrite, hslug, hu]
  | unstorable slug excess hslug hfree hwhole hcheck hwrite =>
      rw [hwrite, hslug, Text.Utf8.unwritable?_eq_none_iff.mpr hwhole, hcheck]
      rfl
  | documentTaken slug hslug hfree hwhole hstorable htaken hwrite =>
      exact absurd (hfiles.isFree _) htaken
  | both slug hslug hfree hwhole hstorable hfree' hwrite =>
      rw [hwrite, hslug, Text.Utf8.unwritable?_eq_none_iff.mpr hwhole, hstorable]
      rfl

/-- A save fails before anything is written, or sets the catalogue at its slug. -/
theorem writeBoth_folder (store : ScriptStore) (c : Catalogue) (request : SaveRequest)
    (hread : Store.Readable store.limits request)
    (hwhole : Text.isWhole request.script.toList = true) :
    store.writeBoth (folder c) request =
      match store.slugFor (folder c) request.name with
      | .error fault => (folder c, .error fault)
      | .ok slug => (folder (Table.set c slug request), .ok slug) := by
  rw [writeBoth_of_filesOnly (filesOnly_folder c), Text.Utf8.unwritable?_eq_none_iff.mpr hwhole,
    hread.storable]
  cases store.slugFor (folder c) request.name with
  | error fault => rfl
  | ok slug => simp only [set_folder]

/-- Each slug was the first one that its name could have: those before it are in force for
other names. -/
structure Sound (store : ScriptStore) (c : Catalogue) : Prop where
  nodup_slugs : (Table.keys c).Nodup
  readable : c.Readable store
  fits : ∀ slug request, Table.get? c slug = some request → store.Fits slug
  claimed : ∀ slug request, Table.get? c slug = some request →
    ∃ n, 1 ≤ n ∧ slug = candidate (Store.slug request.name) n ∧
      ∀ m, 1 ≤ m → m < n → ∃ other,
        Table.get? c (candidate (Store.slug request.name) m) = some other ∧
          other.name ≠ request.name

theorem sound_nil (store : ScriptStore) : Sound store [] where
  nodup_slugs := List.nodup_nil
  readable := by simp [Readable]
  fits := by simp
  claimed := by simp

namespace Sound

/-- A name has one slug. -/
theorem slug_unique (h : c.Sound store) {other : String} {request' : SaveRequest}
    (hslug : Table.get? c slug = some request) (hother : Table.get? c other = some request')
    (hname : request.name = request'.name) : slug = other := by
  obtain ⟨m, hm, rfl, hbelow⟩ := h.claimed slug request hslug
  obtain ⟨n, hn, rfl, hbelow'⟩ := h.claimed other request' hother
  rw [hname] at hslug hbelow ⊢
  rcases Nat.lt_trichotomy m n with hlt | rfl | hlt
  · obtain ⟨third, hthird, hne⟩ := hbelow' m hm hlt
    rw [hslug] at hthird
    exact absurd ((Option.some.inj hthird) ▸ hname) hne
  · rfl
  · obtain ⟨third, hthird, hne⟩ := hbelow n hn hlt
    rw [hother] at hthird
    exact absurd ((Option.some.inj hthird) ▸ rfl) hne

theorem set (h : c.Sound store) (hread : Store.Readable store.limits request) {n : Nat}
    (hn : 1 ≤ n)
    (hpassed : ∀ m, 1 ≤ m → m < n →
      store.Passed (folder c) request.name (candidate (Store.slug request.name) m))
    (husable : store.Usable (folder c) request.name (candidate (Store.slug request.name) n)) :
    Sound store (Table.set c (candidate (Store.slug request.name) n) request) := by
  obtain ⟨hfits, husable⟩ := (usable_folder_iff h.readable).mp husable
  constructor
  case nodup_slugs => exact Table.nodup_keys_set h.nodup_slugs _ _
  case readable =>
    intro slug saved hget
    rw [Table.get?_set] at hget
    split at hget
    · rw [← Option.some.inj hget]
      exact hread
    · exact h.readable slug saved hget
  case fits =>
    intro slug saved hget
    rw [Table.get?_set] at hget
    split at hget
    · rename_i hslug
      rw [← hslug]
      exact hfits
    · exact h.fits slug saved hget
  case claimed =>
    intro slug saved hget
    rw [Table.get?_set] at hget
    split at hget
    · rename_i hslug
      obtain rfl := Option.some.inj hget
      refine ⟨n, hn, hslug.symm, ?_⟩
      intro m hm hlt
      obtain ⟨-, other, hother, hname⟩ := (passed_folder_iff h.readable).mp (hpassed m hm hlt)
      refine ⟨other, ?_, hname⟩
      have hne : candidate (Store.slug request.name) n ≠ candidate (Store.slug request.name) m :=
        fun heq => absurd (candidate_injective hn hm heq) (by omega)
      rw [Table.get?_set, if_neg hne, hother]
    · obtain ⟨k, hk, hslug, hbelow⟩ := h.claimed slug saved hget
      refine ⟨k, hk, hslug, ?_⟩
      intro m hm hlt
      obtain ⟨other, hother, hname⟩ := hbelow m hm hlt
      rw [Table.get?_set]
      split
      · -- the slug is overwritten, by a save under the name that it has already
        rename_i heq
        rw [← heq] at hother
        exact ⟨request, rfl, fun hsame => hname ((husable other hother).trans hsame)⟩
      · exact ⟨other, hother, hname⟩

end Sound

end Catalogue

end BrowserFlow.Store
