import BrowserFlow.Proofs.Store.Listing

/-!
# Runs of saves

A store that begins with an empty folder holds a catalogue of the last saves after each
save (`Holds.save`), so after every run of saves (`Holds.run`). What its folder has
follows from the catalogue (`Holds.keeps`, `Holds.names_eq`, `keeps_after`). This needs
scripts without halves: a save of one that has a half fails, but not without a trace
(`save_of_half`).
-/

namespace BrowserFlow.Store

open Editor (SaveRequest)

def lastSave? (saved : List SaveRequest) (name : String) : Option SaveRequest :=
  saved.reverse.find? fun request => request.name = name

theorem lastSave?_append_singleton (saved : List SaveRequest) (request : SaveRequest)
    (name : String) : lastSave? (saved ++ [request]) name =
      if request.name = name then some request else lastSave? saved name := by
  rw [lastSave?, List.reverse_concat', List.find?_cons]
  by_cases hname : request.name = name
  · simp [hname]
  · simp [hname, lastSave?]

namespace ScriptStore

variable {store : ScriptStore} {root made folder left : Folder} {c : Catalogue}
  {request : SaveRequest} {saved : List SaveRequest}

/-- The directory is absent and can be made, or there and empty. -/
def StartsEmpty (store : ScriptStore) (root : Folder) : Prop :=
  ∃ made, Folder.makeFolder root store.directory = (made, .ok ()) ∧ store.folder? made = some []

def after (store : ScriptStore) : Folder → List SaveRequest → Folder
  | root, [] => root
  | root, request :: rest => store.after (store.save request root).state rest

def accepted (store : ScriptStore) : Folder → List SaveRequest → List SaveRequest
  | _, [] => []
  | root, request :: rest =>
    match (store.save request root).result with
    | .ok _ => request :: store.accepted (store.save request root).state rest
    | .error _ => store.accepted (store.save request root).state rest

def answerTo (store : ScriptStore) (request : SaveRequest) (slug : String) : Json :=
  .object [("name", .text request.name),
    ("path", .text (store.directory.join (scriptFile slug)).text)]

theorem state_save (hmake : Folder.makeFolder root store.directory = (made, .ok ()))
    (hfolder : store.folder? made = some folder) :
    (store.save request root).state = store.replace made (store.writeBoth folder request).1 := by
  cases hwrite : store.writeBoth folder request with
  | mk left written =>
      cases written <;>
        simp [save, Action.bind_apply, Action.note, hmake, hfolder, hwrite]

theorem result_save_of_ok (hmake : Folder.makeFolder root store.directory = (made, .ok ()))
    (hfolder : store.folder? made = some folder) {slug : String}
    (hwrite : store.writeBoth folder request = (left, .ok slug)) :
    (store.save request root).result = .ok (store.answerTo request slug) := by
  simp [save, Action.bind_apply, Action.note, hmake, hfolder, hwrite, answerTo]

theorem exists_result_save_of_error
    (hmake : Folder.makeFolder root store.directory = (made, .ok ()))
    (hfolder : store.folder? made = some folder) {fault : StoreFault}
    (hwrite : store.writeBoth folder request = (left, .error fault)) :
    ∃ failure, (store.save request root).result = .error failure := by
  simp [save, Action.bind_apply, hmake, hfolder, hwrite]

/-- The store holds a catalogue, made up of the last saves under each name. -/
structure Holds (store : ScriptStore) (root : Folder) (c : Catalogue)
    (saved : List SaveRequest) : Prop where
  found : c = [] ∧ store.StartsEmpty root ∨ store.folder? root = some c.folder
  sound : c.Sound store
  latest : ∀ slug request, Table.get? c slug = some request →
    lastSave? saved request.name = some request
  owned : ∀ request ∈ saved, ∃ slug other, Table.get? c slug = some other ∧
    other.name = request.name
  length_le : c.length ≤ saved.length

namespace Holds

theorem start (h : store.StartsEmpty root) : store.Holds root [] [] where
  found := Or.inl ⟨rfl, h⟩
  sound := Catalogue.sound_nil store
  latest := by simp
  owned := by simp
  length_le := le_refl 0

theorem exists_made (h : store.Holds root c saved) :
    ∃ made, Folder.makeFolder root store.directory = (made, .ok ()) ∧
      store.folder? made = some c.folder := by
  rcases h.found with ⟨rfl, hempty⟩ | hfound
  · exact hempty
  · exact ⟨root, makeFolder_of_folder? hfound, hfound⟩

/-- A save puts a folder with the files of a catalogue in its place. -/
theorem folder?_replace (h : store.folder? made = some c.folder) (other : Catalogue) :
    store.folder? (store.replace made other.folder) = some other.folder :=
  ScriptStore.folder?_replace h c.filesOnly_folder other.get?_folder_outside

/-- A save at the first slug that its name can have is from then on the last one under
the name. -/
theorem accept (h : store.Holds root c saved) (hread : Readable store.limits request) {n : Nat}
    (hn : 1 ≤ n)
    (hpassed : ∀ m, 1 ≤ m → m < n →
      store.Passed c.folder request.name (candidate (slug request.name) m))
    (husable : store.Usable c.folder request.name (candidate (slug request.name) n))
    (hfound : store.folder? left =
      some (Catalogue.folder (Table.set c (candidate (slug request.name) n) request))) :
    store.Holds left (Table.set c (candidate (slug request.name) n) request)
      (saved ++ [request]) := by
  have hsound := h.sound.set hread hn hpassed husable
  obtain ⟨-, husable⟩ := (Catalogue.usable_folder_iff h.sound.readable).mp husable
  have hset : Table.get? (Table.set c (candidate (slug request.name) n) request)
      (candidate (slug request.name) n) = some request := by
    rw [Table.get?_set, if_pos rfl]
  constructor
  case found => exact Or.inr hfound
  case sound => exact hsound
  case latest =>
    intro other third hthird
    rw [lastSave?_append_singleton]
    split
    · rename_i hname
      obtain rfl := hsound.slug_unique hset hthird hname
      exact hset.symm.trans hthird
    · rename_i hname
      rw [Table.get?_set] at hthird
      split at hthird
      · rw [← Option.some.inj hthird] at hname
        exact absurd rfl hname
      · exact h.latest other third hthird
  case owned =>
    intro third hthird
    rcases List.mem_append.mp hthird with hthird | hthird
    · obtain ⟨other, fourth, hget, hname⟩ := h.owned third hthird
      by_cases hslug : candidate (slug request.name) n = other
      · subst hslug
        exact ⟨_, request, hset, (husable fourth hget).symm.trans hname⟩
      · refine ⟨other, fourth, ?_, hname⟩
        rw [Table.get?_set, if_neg hslug, hget]
    · rw [List.mem_singleton.mp hthird]
      exact ⟨_, request, hset, rfl⟩
  case length_le =>
    rw [List.length_append, List.length_singleton]
    exact (Table.length_set_le _ _ _).trans (Nat.succ_le_succ h.length_le)

/-- A save either fails, and then a slug that it had to look at does not fit, or is from
then on the last one under its name. -/
theorem save (h : store.Holds root c saved) (hread : Readable store.limits request)
    (hwhole : Text.isWhole request.script.toList = true) :
    (∃ failure, (store.save request root).result = .error failure ∧
        store.Holds (store.save request root).state c saved ∧
        ∃ n, 1 ≤ n ∧ n ≤ c.length + 1 ∧ ¬ store.Fits (candidate (slug request.name) n)) ∨
      ∃ answer other, (store.save request root).result = .ok answer ∧
        store.Holds (store.save request root).state other (saved ++ [request]) := by
  obtain ⟨made, hmake, hfolder⟩ := h.exists_made
  have hwrite := Catalogue.writeBoth_folder store c request hread hwhole
  obtain ⟨n, hn, hpassed, ⟨fault, howner, hfault⟩ | ⟨husable, hok⟩⟩ :=
    slugFor_cases store c.folder request.name
  · left
    rw [hfault] at hwrite
    obtain ⟨failure, hresult⟩ := exists_result_save_of_error hmake hfolder hwrite
    refine ⟨failure, hresult, ?_, n, hn, ?_, ?_⟩
    · rw [state_save hmake hfolder, hwrite]
      exact { h with found := Or.inr (folder?_replace hfolder c) }
    · have hbound : n ≤ 1 + (Table.keys c).length :=
        le_add_length_of_mem (fun _ _ => candidate_injective) fun m hm hlt =>
          Catalogue.mem_keys_of_passed h.sound.readable (hpassed m hm hlt)
      rwa [Table.keys, List.length_map, Nat.add_comm] at hbound
    · intro hfits
      rw [Catalogue.ownerIn_folder h.sound.readable hfits] at howner
      simp at howner
  · right
    rw [hok] at hwrite
    have hresult := result_save_of_ok hmake hfolder hwrite
    refine ⟨_, Table.set c (candidate (slug request.name) n) request, hresult, ?_⟩
    rw [state_save hmake hfolder, hwrite]
    exact h.accept hread hn hpassed husable (folder?_replace hfolder _)

/-- After a run of saves the store holds those that succeeded. -/
theorem run (h : store.Holds root c saved) (requests : List SaveRequest)
    (hread : ∀ request ∈ requests, Readable store.limits request)
    (hwhole : ∀ request ∈ requests, Text.isWhole request.script.toList = true) :
    ∃ other, store.Holds (store.after root requests) other
      (saved ++ store.accepted root requests) := by
  induction requests generalizing root c saved with
  | nil => exact ⟨c, by simpa [after, accepted] using h⟩
  | cons request requests ih =>
      rw [List.forall_mem_cons] at hread hwhole
      rw [after, accepted]
      rcases h.save hread.1 hwhole.1 with
        ⟨failure, hresult, hleft, -⟩ | ⟨answer, other, hresult, hleft⟩
      · rw [hresult]
        exact ih hleft hread.2 hwhole.2
      · rw [hresult]
        obtain ⟨last, hlast⟩ := ih hleft hread.2 hwhole.2
        exact ⟨last, by simpa using hlast⟩

/-- Where all slugs fit that may have to be looked at, all saves of a run succeed. -/
theorem accepted_eq (h : store.Holds root c saved) (requests : List SaveRequest)
    (hread : ∀ request ∈ requests, Readable store.limits request)
    (hwhole : ∀ request ∈ requests, Text.isWhole request.script.toList = true)
    (hfits : ∀ request ∈ requests, ∀ n, 1 ≤ n → n ≤ saved.length + requests.length →
      store.Fits (candidate (slug request.name) n)) :
    store.accepted root requests = requests := by
  induction requests generalizing root c saved with
  | nil => rfl
  | cons request requests ih =>
      rw [List.forall_mem_cons] at hread hwhole hfits
      have hlength := h.length_le
      rw [accepted]
      rcases h.save hread.1 hwhole.1 with
        ⟨failure, -, -, n, hn, hle, hnot⟩ | ⟨answer, other, hresult, hleft⟩
      · rw [List.length_cons] at hfits
        exact absurd (hfits.1 n hn (by omega)) hnot
      · rw [hresult, ih hleft hread.2 hwhole.2]
        intro third hthird n hn hle
        rw [List.length_append, List.length_singleton] at hle
        exact hfits.2 third hthird n hn (by rw [List.length_cons]; omega)

theorem folder?_cases (h : store.Holds root c saved) :
    store.folder? root = none ∧ c = [] ∨ store.folder? root = some c.folder := by
  rcases h.found with ⟨rfl, made, hmake, hmade⟩ | hfound
  · cases hfolder : store.folder? root with
    | none => exact Or.inl ⟨rfl, rfl⟩
    | some folder =>
        rw [makeFolder_of_folder? hfolder] at hmake
        rw [← (Prod.mk.inj hmake).1, hfolder] at hmade
        exact Or.inr hmade
  · exact Or.inr hfound

theorem getD_folder? (h : store.Holds root c saved) :
    (store.folder? root).getD [] = c.folder := by
  rcases h.folder?_cases with ⟨hnone, rfl⟩ | hfound
  · rw [hnone]
    rfl
  · rw [hfound, Option.getD_some]

end Holds

end ScriptStore

/-- A folder holds the last saves under their names. `slugOf` tells which slug a name
owns. -/
structure ScriptStore.Keeps (store : ScriptStore) (folder : Folder) (saved : List SaveRequest)
    (slugOf : String → String) : Prop where
  owns_iff : ∀ request ∈ saved, ∀ slug,
    store.ownerIn folder slug = .ok (.text request.name) ↔ slug = slugOf request.name
  injective : ∀ a ∈ saved, ∀ b ∈ saved, slugOf a.name = slugOf b.name → a.name = b.name
  script_eq : ∀ name request, lastSave? saved name = some request →
    Table.get? folder (scriptFile (slugOf name)) =
      some (.file (Text.Utf8.encode request.script.toList))
  document_eq : ∀ name request, lastSave? saved name = some request →
    Table.get? folder (documentFile (slugOf name)) =
        some (.file (Text.Utf8.encode (storedText request).toList)) ∧
      store.loadIn folder (slugOf name) = .ok (storedDocument request)
  files : ∀ file ∈ Table.keys folder, ∃ request ∈ saved,
    file = scriptFile (slugOf request.name) ∨ file = documentFile (slugOf request.name)

namespace ScriptStore

variable {store : ScriptStore} {root : Folder} {c : Catalogue} {saved : List SaveRequest}

theorem mem_of_lastSave? {name : String} {request : SaveRequest}
    (h : lastSave? saved name = some request) : request ∈ saved ∧ request.name = name := by
  refine ⟨List.mem_reverse.mp (List.mem_of_find?_eq_some h), ?_⟩
  simpa using List.find?_some h

namespace Holds

/-- The last save under a name is the one in force. -/
theorem get?_slugOf (h : store.Holds root c saved) {name : String} {request : SaveRequest}
    (hlast : lastSave? saved name = some request) :
    Table.get? c (c.slugOf name) = some request := by
  obtain ⟨hmem, rfl⟩ := mem_of_lastSave? hlast
  obtain ⟨slug, other, hget, hname⟩ := h.owned request hmem
  have hother := h.latest slug other hget
  rw [hname, hlast] at hother
  rw [← hname, Catalogue.slugOf_name h.sound hget, hget, ← hother]

theorem keeps (h : store.Holds root c saved) : store.Keeps c.folder saved c.slugOf := by
  constructor
  case owns_iff =>
    intro request hrequest slug
    obtain ⟨own, other, hget, hname⟩ := h.owned request hrequest
    constructor
    · intro howner
      have hfits := Catalogue.fits_of_ownerIn howner
      rw [Catalogue.ownerIn_folder h.sound.readable hfits] at howner
      cases hslug : Table.get? c slug with
      | none => simp [hslug] at howner
      | some third =>
          rw [hslug] at howner
          rw [← Json.text.inj (Except.ok.inj howner), Catalogue.slugOf_name h.sound hslug]
    · rintro rfl
      rw [← hname, Catalogue.slugOf_name h.sound hget,
        Catalogue.ownerIn_folder h.sound.readable (h.sound.fits own other hget), hget]
  case injective =>
    intro a ha b hb heq
    obtain ⟨slug, first, hfirst, hname⟩ := h.owned a ha
    obtain ⟨slug', second, hsecond, hname'⟩ := h.owned b hb
    rw [← hname, ← hname', Catalogue.slugOf_name h.sound hfirst,
      Catalogue.slugOf_name h.sound hsecond] at heq
    rw [heq, hsecond] at hfirst
    rw [← hname, ← hname', Option.some.inj hfirst]
  case script_eq =>
    intro name request hlast
    rw [Catalogue.get?_folder_scriptFile, h.get?_slugOf hlast]
    rfl
  case document_eq =>
    intro name request hlast
    have hget := h.get?_slugOf hlast
    rw [Catalogue.get?_folder_documentFile, hget,
      Catalogue.loadIn_folder h.sound.readable (h.sound.fits _ _ hget), hget]
    exact ⟨rfl, rfl⟩
  case files =>
    intro file hfile
    obtain ⟨slug, hslug, hname⟩ := Catalogue.mem_keys_folder.mp hfile
    obtain ⟨request, hget⟩ := Table.mem_keys_iff.mp hslug
    refine ⟨request, (mem_of_lastSave? (h.latest slug request hget)).1, ?_⟩
    rw [Catalogue.slugOf_name h.sound hget]
    exact hname

theorem names_eq (h : store.Holds root c saved) (hnames : ∀ request ∈ saved, request.name ≠ "") :
    store.names root = .ok ((c.sorted.map c.nameAt).map .text) := by
  have hget : ∀ slug request, Table.get? c slug = some request → request.name ≠ "" :=
    fun slug request hget => hnames request (mem_of_lastSave? (h.latest slug request hget)).1
  rcases h.folder?_cases with ⟨hnone, rfl⟩ | hfound
  · simp [names, hnone, Catalogue.sorted, Table.keys]
  · simp only [names, hfound]
    rw [Catalogue.slugsIn_folder h.sound, Catalogue.mapM_listedName h.sound hget
      fun slug => Catalogue.mem_sorted_iff.mp, List.map_map]
    rfl

theorem exists_nameAt (h : store.Holds root c saved) {slug : String}
    (hslug : slug ∈ Table.keys c) : ∃ request ∈ saved, request.name = c.nameAt slug := by
  obtain ⟨request, hget⟩ := Table.mem_keys_iff.mp hslug
  exact ⟨request, (mem_of_lastSave? (h.latest slug request hget)).1,
    (Catalogue.nameAt_of_get? hget).symm⟩

end Holds

theorem accepted_sublist (store : ScriptStore) (root : Folder) (requests : List SaveRequest) :
    (store.accepted root requests).Sublist requests := by
  induction requests generalizing root with
  | nil => exact List.Sublist.slnil
  | cons request requests ih =>
      rw [accepted]
      split
      · exact (ih _).cons_cons request
      · exact (ih _).cons request

/-- After a run of saves into a folder that was empty, each name that was saved owns one
slug, under which the last script and the last document are found, and there are no other
files. The names are listed once each, by their slugs. A save fails only where a slug that
it may have to look at does not fit. -/
theorem keeps_after (hempty : store.StartsEmpty root) {requests : List SaveRequest}
    (hread : ∀ request ∈ requests, Readable store.limits request)
    (hnames : ∀ request ∈ requests, request.name ≠ "")
    (hwhole : ∀ request ∈ requests, Text.isWhole request.script.toList = true) :
    ∃ (slugOf : String → String) (listed : List String),
      store.Keeps ((store.folder? (store.after root requests)).getD [])
        (store.accepted root requests) slugOf ∧
      store.names (store.after root requests) = .ok (listed.map .text) ∧
      listed.Nodup ∧
      (∀ name, name ∈ listed ↔ ∃ request ∈ store.accepted root requests, request.name = name) ∧
      (listed.map slugOf).Pairwise (· < ·) ∧
      ((∀ request ∈ requests, ∀ n, 1 ≤ n → n ≤ requests.length →
          store.Fits (candidate (slug request.name) n)) →
        store.accepted root requests = requests) := by
  have hstart := Holds.start hempty
  obtain ⟨c, hholds⟩ := hstart.run requests hread hwhole
  rw [List.nil_append] at hholds
  have hascending : ((c.sorted.map c.nameAt).map c.slugOf).Pairwise (· < ·) := by
    rw [Catalogue.map_slugOf_nameAt_sorted hholds.sound]
    exact Catalogue.pairwise_sorted hholds.sound
  refine ⟨c.slugOf, c.sorted.map c.nameAt, ?_, ?_, ?_, ?_, hascending, ?_⟩
  · rw [hholds.getD_folder?]
    exact hholds.keeps
  · apply hholds.names_eq
    intro request hrequest
    exact hnames request ((accepted_sublist store root requests).subset hrequest)
  · exact List.Nodup.of_map c.slugOf (hascending.imp ne_of_lt)
  · intro name
    rw [List.mem_map]
    constructor
    · rintro ⟨slug, hslug, rfl⟩
      exact hholds.exists_nameAt (Catalogue.mem_sorted_iff.mp hslug)
    · rintro ⟨request, hrequest, rfl⟩
      obtain ⟨slug, other, hget, hname⟩ := hholds.owned request hrequest
      exact ⟨slug, Catalogue.mem_sorted_iff.mpr (Table.mem_keys_iff.mpr ⟨other, hget⟩),
        (Catalogue.nameAt_of_get? hget).trans hname⟩
  · intro hfits
    apply hstart.accepted_eq requests hread hwhole
    rw [List.length_nil, Nat.zero_add]
    exact hfits

theorem startsEmpty_scripts : StartsEmpty { directory := ⟨"", ["scripts"]⟩ } [] := by
  refine ⟨[("scripts", .folder [])], by rfl, folder?_eq_some_iff.mpr ⟨["scripts"], by decide, rfl⟩⟩

/-- Two names that share a slug, the first of them saved twice. -/
theorem keeps_after_log_in :
    let store : ScriptStore := { directory := ⟨"", ["scripts"]⟩ }
    let requests : List SaveRequest := [⟨"Log In", "first", [], []⟩, ⟨"log-in", "other", [], []⟩,
      ⟨"Log In", "second", [], []⟩]
    ∃ (slugOf : String → String) (listed : List String),
      store.Keeps ((store.folder? (store.after [] requests)).getD []) requests slugOf ∧
      store.names (store.after [] requests) = .ok (listed.map .text) ∧ listed.Nodup ∧
      ∀ name, name ∈ listed ↔ ∃ request ∈ requests, request.name = name := by
  intro store requests
  have hempty : store.StartsEmpty [] := startsEmpty_scripts
  have hread : ∀ request ∈ requests, Readable store.limits request := by decide +kernel
  have hwhole : ∀ request ∈ requests, Text.isWhole request.script.toList = true := by decide
  have hfits : ∀ request ∈ requests, ∀ n ∈ [1, 2, 3],
      store.Fits (candidate (slug request.name) n) := by
    decide +kernel
  obtain ⟨slugOf, listed, hkeeps, hnames, hnodup, hlisted, -, hall⟩ :=
    keeps_after hempty hread (by decide) hwhole
  have haccepted : store.accepted [] requests = requests := by
    apply hall
    intro request hrequest n hn hle
    have hmem : n ∈ [1, 2, 3] := by
      change n ≤ 3 at hle
      simp only [List.mem_cons, List.not_mem_nil, or_false]
      omega
    exact hfits request hrequest n hmem
  rw [haccepted] at hkeeps hlisted
  exact ⟨slugOf, listed, hkeeps, hnames, hnodup, hlisted⟩

theorem ownerIn_of_alone {folder : Folder} {slug : String} (hfits : store.Fits slug)
    (halone : ∀ bytes, Table.get? folder (documentFile slug) ≠ some (.file bytes)) :
    store.ownerIn folder slug = .ok .null := by
  obtain ⟨hpath, hname⟩ := hfits
  unfold ownerIn loadIn
  rw [hpath, hname]
  cases hget : Table.get? folder (documentFile slug) with
  | none => rfl
  | some e =>
      cases e with
      | file bytes => exact absurd hget (halone bytes)
      | folder entries => rfl

theorem ownerIn_of_get?_eq_none {folder : Folder} {slug : String} (hfits : store.Fits slug)
    (hnone : Table.get? folder (documentFile slug) = none) :
    store.ownerIn folder slug = .ok .null :=
  ownerIn_of_alone hfits fun bytes hget => by rw [hnone] at hget; cases hget

theorem loadIn_of_get? {folder : Folder} {slug : String} (hfits : store.Fits slug)
    {bytes : List UInt8} (hget : Table.get? folder (documentFile slug) = some (.file bytes)) :
    store.loadIn folder slug = readDocument store.limits bytes := by
  obtain ⟨hpath, hname⟩ := hfits
  unfold loadIn
  rw [hpath, hname, hget]
  rfl

/-- The owner of a slug that has a document is the name in it, or the slug. -/
theorem ownerIn_of_document {folder : Folder} {slug : String} (hfits : store.Fits slug)
    {bytes : List UInt8} {fields : Table Json}
    (hget : Table.get? folder (documentFile slug) = some (.file bytes))
    (hread : readDocument store.limits bytes = .ok (.object fields)) :
    store.ownerIn folder slug = .ok ((Table.get? fields "name").getD (.text slug)) := by
  rw [ownerIn, loadIn_of_get? hfits hget, hread]
  rfl

/-- A script with a half has no bytes. Its file is there before this is found out, and
stays, without a document, under a slug that is listed as a name from then on. -/
theorem save_of_half (hempty : store.StartsEmpty root) {request : SaveRequest}
    (hhalf : Text.isWhole request.script.toList = false)
    (hfits : store.Fits (slug request.name)) :
    (∃ failure, (store.save request root).result = .error failure) ∧
      store.folder? (store.save request root).state =
        some [(scriptFile (slug request.name), .file [])] ∧
      store.names (store.save request root).state = .ok [.text (slug request.name)] := by
  obtain ⟨made, hmake, hmade⟩ := hempty
  have hslug : store.slugFor [] request.name = .ok (slug request.name) := by
    have howner := ownerIn_of_get?_eq_none hfits (Table.get?_nil _)
    rw [slugFor, List.length_nil, slugFrom, candidate_of_le _ (le_refl 1), howner]
    simp only [bind, Except.bind, Catalogue.isUsable_null, if_true]
  obtain ⟨u, hu⟩ : ∃ u, Text.Utf8.unwritable? request.script.toList = some u := by
    rw [← Option.ne_none_iff_exists', Ne, Text.Utf8.unwritable?_eq_none_iff, hhalf]
    decide
  have hfiles : Folder.FilesOnly [] := by simp [Folder.FilesOnly]
  have hwrite : store.writeBoth [] request =
      ([(scriptFile (slug request.name), .file [])], .error (.unwritable u)) := by
    rw [Catalogue.writeBoth_of_filesOnly hfiles, hslug]
    simp only [hu, Table.set]
  have hresult := exists_result_save_of_error hmake hmade hwrite
  have hfolder : store.folder? (store.save request root).state =
      some [(scriptFile (slug request.name), .file [])] := by
    rw [state_save hmake hmade, hwrite]
    apply folder?_replace hmade hfiles
    rw [Table.get?, if_neg (scriptFile_ne_outside _), Table.get?_nil]
  refine ⟨hresult, hfolder, ?_⟩
  have hslugs : slugsIn [(scriptFile (slug request.name), .file [])] = [slug request.name] := by
    simp only [slugsIn, Table.keys, List.map_cons, List.map_nil, List.filter_cons,
      isSuffixOf_scriptFile, if_true, List.filter_nil, stemOf_scriptFile (slug_ne_empty _),
      List.mergeSort_singleton]
  have howner : store.ownerIn [(scriptFile (slug request.name), .file [])] (slug request.name) =
      .ok .null := by
    apply ownerIn_of_get?_eq_none hfits
    rw [Table.get?, if_neg (scriptFile_ne_documentFile _ _), Table.get?_nil]
  simp only [names, hfolder, hslugs, List.mapM_cons, List.mapM_nil, listedName, howner]
  rfl

/-- After the one save, which fails, there is a file that belongs to no saved name, and a
name is listed under which nothing was saved. -/
theorem not_keeps_half :
    let store : ScriptStore := { directory := ⟨"", ["scripts"]⟩ }
    let request : SaveRequest := ⟨"Pair", String.ofList [Text.ofHalf 0xd83d], [], []⟩
    store.StartsEmpty [] ∧ Readable store.limits request ∧ store.accepted [] [request] = [] ∧
      store.names (store.after [] [request]) = .ok [.text "pair"] ∧
      ¬ ∃ slugOf, store.Keeps ((store.folder? (store.after [] [request])).getD [])
        (store.accepted [] [request]) slugOf := by
  intro store request
  have hread : Readable store.limits request := by decide +kernel
  have hslug : slug request.name = "pair" := by decide +kernel
  have hfits : store.Fits (slug request.name) := by
    rw [hslug]
    decide
  have hhalf : Text.isWhole request.script.toList = false := by decide
  obtain ⟨⟨failure, hresult⟩, hfolder, hnames⟩ := save_of_half startsEmpty_scripts hhalf hfits
  have hresult : (store.save request []).result = .error failure := hresult
  have haccepted : store.accepted [] [request] = [] := by
    rw [accepted, hresult]
    rfl
  rw [hslug] at hfolder hnames
  refine ⟨startsEmpty_scripts, hread, haccepted, hnames, ?_⟩
  rintro ⟨slugOf, hkeeps⟩
  have hmem : "pair.py" ∈ Table.keys ((store.folder? (store.after [] [request])).getD []) := by
    rw [after, after, hfolder]
    exact List.mem_singleton_self _
  obtain ⟨other, hother, -⟩ := hkeeps.files _ hmem
  rw [haccepted] at hother
  exact absurd hother List.not_mem_nil

end ScriptStore

end BrowserFlow.Store
