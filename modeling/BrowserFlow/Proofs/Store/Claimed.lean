import BrowserFlow.Proofs.Store.Spared
import BrowserFlow.Proofs.Store.Stem

/-!
# Where the search for a slug ends

`ScriptStore.Searches` is the search without a bound: it looks at one slug after the other, for as
long as they belong to other names. Each slug that it passes over has a document of its own, so
the search looks at one slug more than there are documents at most (`ScriptStore.searches_slugFor`),
and the bound that `slugFor` has plays no part.

What ends it is told from the files (`ScriptStore.EndsAt`). A slug is free if it has no document,
and is kept if its document records the name. A search that comes to a slug whose document cannot be
looked for, or cannot be read, fails there. So a name that is too long for a file has no slug, even
in an empty folder (`ScriptStore.not_searches_long`).
-/

namespace BrowserFlow.Store

open Editor (SaveRequest)

def documentFiles (folder : Folder) : List String :=
  Table.keys (folder.filter fun entry =>
    match entry.2 with
    | .file _ => ".json".toList.isSuffixOf entry.1.toList
    | .folder _ => false)

theorem mem_documentFiles {folder : Folder} {slug : String} {bytes : List UInt8}
    (h : Table.get? folder (documentFile slug) = some (.file bytes)) :
    documentFile slug ∈ documentFiles folder := by
  have hsuffix : ".json".toList.isSuffixOf (documentFile slug).toList = true := by
    rw [List.isSuffixOf_iff_suffix, documentFile, String.toList_append]
    exact List.suffix_append _ _
  exact List.mem_map_of_mem (List.mem_filter.mpr ⟨Table.mem_of_get? h, hsuffix⟩)

namespace ScriptStore

variable {store : ScriptStore} {root folder : Folder} {base name slug : String}

/-! ## What a slug belongs to -/

/-- The slug has a document that records the owner as its name, or is itself the owner where the
document records none. -/
def Records (store : ScriptStore) (folder : Folder) (slug owner : String) : Prop :=
  ∃ bytes fields, Table.get? folder (documentFile slug) = some (.file bytes) ∧
    readDocument store.limits bytes = .ok (.object fields) ∧
    (Table.get? fields "name").getD (.text slug) = .text owner

/-- Each document that can be read is an object, whose name, if it has one, is a text. -/
def Titled (store : ScriptStore) (folder : Folder) : Prop :=
  ∀ slug bytes document, Table.get? folder (documentFile slug) = some (.file bytes) →
    readDocument store.limits bytes = .ok document →
      ∃ fields, document = .object fields ∧
        ∀ title, Table.get? fields "name" = some title → ∃ text, title = .text text

/-- What a search gives that ends at a slug, be it free, or the name's own, or one whose document
cannot be looked for, or one whose document cannot be read. -/
inductive EndsAt (store : ScriptStore) (folder : Folder) (name slug : String) :
    Except StoreFault String → Prop
  | free (fits : store.Fits slug)
      (alone : ∀ bytes, Table.get? folder (documentFile slug) ≠ some (.file bytes)) :
      EndsAt store folder name slug (.ok slug)
  | own (fits : store.Fits slug) (records : store.Records folder slug name) :
      EndsAt store folder name slug (.ok slug)
  | tooLong (unfit : ¬ store.Fits slug) :
      EndsAt store folder name slug (.error (store.entryFault (documentFile slug) .nameTooLong))
  | unread (fits : store.Fits slug) {bytes : List UInt8}
      (there : Table.get? folder (documentFile slug) = some (.file bytes)) {fault : StoreFault}
      (refused : readDocument store.limits bytes = .error fault) :
      EndsAt store folder name slug (.error fault)

theorem EndsAt.eq_of_ok {found : String} (h : store.EndsAt folder name slug (.ok found)) :
    found = slug := by
  generalize houtcome : Except.ok found = outcome at h
  cases h with
  | free | own => exact Except.ok.inj houtcome
  | tooLong | unread => cases houtcome

theorem ownerIn_of_unread (hfits : store.Fits slug) {bytes : List UInt8}
    (hget : Table.get? folder (documentFile slug) = some (.file bytes)) {fault : StoreFault}
    (hread : readDocument store.limits bytes = .error fault) :
    store.ownerIn folder slug = .error fault := by
  rw [ownerIn, loadIn_of_get? hfits hget, hread]
  rfl

/-- A path without null characters that cannot be followed is too long. -/
theorem ownerIn_of_not_fits
    (hplain : '\x00' ∉ (store.directory.join (documentFile slug)).text.toList)
    (hfits : ¬ store.Fits slug) :
    store.ownerIn folder slug =
      .error (store.entryFault (documentFile slug) .nameTooLong) := by
  have hpath : ∀ fault, (store.directory.join (documentFile slug)).fault? = some fault →
      fault = .nameTooLong := by
    intro fault hfault
    have hnull :
        (store.directory.join (documentFile slug)).text.toList.contains '\x00' = false := by
      simpa using hplain
    simp only [Path.fault?, hnull, Bool.false_eq_true, if_false, Option.ite_none_right_eq_some]
      at hfault
    exact (Option.some.inj hfault.2).symm
  have hname : ∀ fault, nameFault? (documentFile slug) = some fault → fault = .nameTooLong := by
    intro fault hfault
    simp only [nameFault?, Option.ite_none_right_eq_some] at hfault
    exact (Option.some.inj hfault.2).symm
  obtain ⟨fault, hfault⟩ : ∃ fault, (store.directory.join (documentFile slug)).fault?.or
      (nameFault? (documentFile slug)) = some fault := by
    rw [← Option.ne_none_iff_exists', Ne, Option.or_eq_none_iff]
    exact hfits
  obtain rfl : fault = .nameTooLong := by
    rcases Option.or_eq_some_iff.mp hfault with hfault | ⟨-, hfault⟩
    · exact hpath fault hfault
    · exact hname fault hfault
  unfold ownerIn loadIn
  rw [hfault]
  rfl

/-- A slug whose document can be looked for has none, or one that cannot be read, or belongs to the
name that its document records. -/
theorem ownerIn_cases (htitled : store.Titled folder) (hfits : store.Fits slug) :
    (store.ownerIn folder slug = .ok .null ∧
        ∀ bytes, Table.get? folder (documentFile slug) ≠ some (.file bytes)) ∨
      (∃ fault bytes, store.ownerIn folder slug = .error fault ∧
        Table.get? folder (documentFile slug) = some (.file bytes) ∧
          readDocument store.limits bytes = .error fault) ∨
        ∃ text, store.ownerIn folder slug = .ok (.text text) ∧
          store.Records folder slug text := by
  by_cases halone : ∀ bytes, Table.get? folder (documentFile slug) ≠ some (.file bytes)
  · exact Or.inl ⟨ownerIn_of_alone hfits halone, halone⟩
  · obtain ⟨bytes, hget⟩ := not_forall_not.mp halone
    right
    cases hread : readDocument store.limits bytes with
    | error fault => exact Or.inl ⟨fault, bytes, ownerIn_of_unread hfits hget hread, hget, hread⟩
    | ok document =>
        obtain ⟨fields, rfl, htext⟩ := htitled slug bytes document hget hread
        obtain ⟨text, hrecorded⟩ :
            ∃ text, (Table.get? fields "name").getD (.text slug) = .text text := by
          cases htitle : Table.get? fields "name" with
          | none => exact ⟨slug, rfl⟩
          | some title => exact htext title htitle
        refine Or.inr ⟨text, ?_, bytes, fields, hget, hread, hrecorded⟩
        rw [ownerIn_of_document hfits hget hread, hrecorded]

theorem exists_records_of_passed (htitled : store.Titled folder)
    (h : store.Passed folder name slug) :
    ∃ other, other ≠ name ∧ store.Records folder slug other := by
  obtain ⟨owner, howner, husable⟩ := h
  rcases ownerIn_cases htitled (Catalogue.fits_of_ownerIn howner) with
    ⟨hnull, -⟩ | ⟨fault, -, hfault, -⟩ | ⟨other, hother, hrecords⟩
  · obtain rfl := Except.ok.inj (howner.symm.trans hnull)
    rw [Catalogue.isUsable_null] at husable
    cases husable
  · cases howner.symm.trans hfault
  · obtain rfl := Except.ok.inj (howner.symm.trans hother)
    rw [← Bool.not_eq_true, Catalogue.isUsable_text_iff] at husable
    exact ⟨other, husable, hrecords⟩

theorem endsAt_of_usable (htitled : store.Titled folder) (h : store.Usable folder name slug) :
    store.EndsAt folder name slug (.ok slug) := by
  obtain ⟨owner, howner, husable⟩ := h
  have hfits := Catalogue.fits_of_ownerIn howner
  rcases ownerIn_cases htitled hfits with
    ⟨-, halone⟩ | ⟨fault, -, hfault, -⟩ | ⟨other, hother, hrecords⟩
  · exact .free hfits halone
  · cases howner.symm.trans hfault
  · obtain rfl := Except.ok.inj (howner.symm.trans hother)
    rw [Catalogue.isUsable_text_iff] at husable
    exact .own hfits (husable ▸ hrecords)

theorem endsAt_of_fault (htitled : store.Titled folder)
    (hplain : '\x00' ∉ (store.directory.join (documentFile slug)).text.toList)
    {fault : StoreFault} (h : store.ownerIn folder slug = .error fault) :
    store.EndsAt folder name slug (.error fault) := by
  by_cases hfits : store.Fits slug
  · rcases ownerIn_cases htitled hfits with
      ⟨hnull, -⟩ | ⟨other, bytes, hother, hget, hread⟩ | ⟨text, hrecorded, -⟩
    · cases h.symm.trans hnull
    · obtain rfl := Except.error.inj (h.symm.trans hother)
      exact .unread hfits hget hread
    · cases h.symm.trans hrecorded
  · obtain rfl := Except.error.inj (h.symm.trans (ownerIn_of_not_fits hplain hfits))
    exact .tooLong hfits

/-! ## The search -/

/-- The search from the `n`-th slug on, without a bound: after so many looks it ends, with a slug or
a fault. -/
inductive Searches (store : ScriptStore) (folder : Folder) (base name : String) :
    (n looks : Nat) → Except StoreFault String → Prop
  | fails {n : Nat} {fault : StoreFault}
      (owner_eq : store.ownerIn folder (candidate base n) = .error fault) :
      Searches store folder base name n 1 (.error fault)
  | finds {n : Nat} (usable : store.Usable folder name (candidate base n)) :
      Searches store folder base name n 1 (.ok (candidate base n))
  | passes {n looks : Nat} {outcome : Except StoreFault String}
      (passed : store.Passed folder name (candidate base n))
      (rest : Searches store folder base name (n + 1) looks outcome) :
      Searches store folder base name n (looks + 1) outcome

/-- What is passed over adds to the looks, one by one. -/
theorem Searches.of_passed {n looks : Nat} {outcome : Except StoreFault String} (passed : Nat)
    (hpassed : ∀ m, n ≤ m → m < n + passed → store.Passed folder name (candidate base m))
    (h : store.Searches folder base name (n + passed) looks outcome) :
    store.Searches folder base name n (looks + passed) outcome := by
  induction passed generalizing n with
  | zero => exact h
  | succ passed ih =>
      rw [← Nat.add_assoc, Nat.add_right_comm] at h
      refine .passes (hpassed n (le_refl n) (by omega)) (ih (fun m hm hlt => ?_) h)
      exact hpassed m (by omega) (by omega)

theorem notMem_text_join (hfolder : store.folder? root = some folder) {base : String}
    (h : IsStem base.toList) (n : Nat) :
    '\x00' ∉ (store.directory.join (documentFile (candidate base n))).text.toList := by
  have hchild : NamesChild (documentFile (candidate base n)) :=
    namesChild_candidate_append h n (by simp)
  have hslash : '/' ∉ (candidate base n).toList := fun hmem =>
    hchild.plain '/' (by simp) (by simp [documentFile, hmem])
  obtain ⟨here, hplace, -⟩ := folder?_eq_some_iff.mp hfolder
  have hdirectory : '\x00' ∉ store.directory.text.toList := by
    rw [Folder.place] at hplace
    cases hfault : store.directory.fault? with
    | some fault => simp [hfault] at hplace
    | none => exact (Path.fault?_eq_none_iff.mp hfault).1
  intro hmem
  rcases Path.mem_text_join (isComponent_documentFile hslash) hmem with hmem | hmem | hmem
  · exact hdirectory hmem
  · exact absurd hmem (by decide)
  · exact hchild.plain '\x00' (by simp) hmem

/-- In a folder whose documents have titles, the search for a slug looks at one slug more than
there are documents at most. It goes past those that documents record other names for, and ends at
the first that has no document or one that records the name. It fails only at a slug whose document
has a name or a path that is too long, or cannot be read. -/
theorem searches_slugFor (hfolder : store.folder? root = some folder)
    (htitled : store.Titled folder) (name : String) :
    ∃ k, 1 ≤ k ∧ k ≤ (documentFiles folder).length + 1 ∧
      store.Searches folder (Store.slug name) name 1 k (store.slugFor folder name) ∧
      (∀ m, 1 ≤ m → m < k → ∃ other, other ≠ name ∧
        store.Records folder (candidate (Store.slug name) m) other) ∧
      store.EndsAt folder name (candidate (Store.slug name) k) (store.slugFor folder name) := by
  obtain ⟨k, hk, hpassed, hend⟩ := slugFor_cases store folder name
  have hrecords : ∀ m, 1 ≤ m → m < k → ∃ other, other ≠ name ∧
      store.Records folder (candidate (Store.slug name) m) other :=
    fun m hm hlt => exists_records_of_passed htitled (hpassed m hm hlt)
  have hfiles : ∀ m, 1 ≤ m → m < k →
      documentFile (candidate (Store.slug name) m) ∈ documentFiles folder := by
    intro m hm hlt
    obtain ⟨-, -, bytes, -, hget, -⟩ := hrecords m hm hlt
    exact mem_documentFiles hget
  have hbound := le_add_length_of_documentFile_mem hfiles
  have hsearches : ∀ outcome, store.Searches folder (Store.slug name) name k 1 outcome →
      store.Searches folder (Store.slug name) name 1 k outcome := by
    intro outcome hlast
    obtain ⟨passed, rfl⟩ := Nat.exists_eq_add_of_le hk
    exact hlast.of_passed passed hpassed
  refine ⟨k, hk, by omega, ?_⟩
  rcases hend with ⟨fault, howner, hfault⟩ | ⟨husable, hok⟩
  · rw [hfault]
    exact ⟨hsearches _ (.fails howner), hrecords,
      endsAt_of_fault htitled (notMem_text_join hfolder (isStem_slug name) k) howner⟩
  · rw [hok]
    exact ⟨hsearches _ (.finds husable), hrecords, endsAt_of_usable htitled husable⟩

/-- The first two slugs belong to other names and the third, whose document records none, to
itself, so the fourth is looked at after three documents. -/
theorem searches_slugFor_log_in :
    let store : ScriptStore := { directory := ⟨"", ["scripts"]⟩ }
    let request (name : String) : SaveRequest := ⟨name, "", [], []⟩
    let folder : Folder := [("log-in.py", .file []),
      ("log-in.json", Catalogue.documentEntry (request "Log In")),
      ("log-in-2.json", Catalogue.documentEntry (request "log in")),
      ("log-in-3.json", .file (Text.Utf8.encode "\x7b\x7d".toList)), ("log-in-4.json", .folder [])]
    let root : Folder := [("scripts", .folder folder)]
    store.folder? root = some folder ∧ store.Titled folder ∧ (documentFiles folder).length = 3 ∧
      store.Searches folder "log-in" "LOG IN" 1 4 (.ok "log-in-4") ∧
      store.EndsAt folder "LOG IN" "log-in-4" (.ok "log-in-4") := by
  intro store request folder root
  have hfolder : store.folder? root = some folder :=
    folder?_eq_some_iff.mpr ⟨["scripts"], by decide, rfl⟩
  have hfirst := readDocument_storedText
    (by decide +kernel : Readable store.limits (request "Log In"))
  have hsecond := readDocument_storedText
    (by decide +kernel : Readable store.limits (request "log in"))
  have hthird : readDocument store.limits (Text.Utf8.encode "\x7b\x7d".toList) =
      .ok (.object []) := eq_ok_of_toOption (by decide +kernel)
  have htitled : store.Titled folder := by
    intro slug bytes document hget hread
    have hmem := Table.mem_of_get? hget
    simp only [folder, List.mem_cons, Prod.mk.injEq, List.not_mem_nil, or_false] at hmem
    rcases hmem with ⟨hscript, -⟩ | ⟨-, hbytes⟩ | ⟨-, hbytes⟩ | ⟨-, hbytes⟩ | ⟨-, hbytes⟩
    · exact absurd hscript.symm (scriptFile_ne_documentFile "log-in" slug)
    · rw [Entry.file.inj hbytes, hfirst] at hread
      exact ⟨_, (Except.ok.inj hread).symm, by simp [Table.get?]⟩
    · rw [Entry.file.inj hbytes, hsecond] at hread
      exact ⟨_, (Except.ok.inj hread).symm, by simp [Table.get?]⟩
    · rw [Entry.file.inj hbytes, hthird] at hread
      exact ⟨_, (Except.ok.inj hread).symm, by simp⟩
    · cases hbytes
  have hfiles : (documentFiles folder).length = 3 := by decide
  have hslug : Store.slug "LOG IN" = "log-in" := by decide +kernel
  have hfound : store.slugFor folder "LOG IN" = .ok "log-in-4" :=
    eq_ok_of_toOption (by decide +kernel)
  obtain ⟨k, hk, -, hsearches, -, hends⟩ := searches_slugFor hfolder htitled "LOG IN"
  rw [hslug, hfound] at hsearches hends
  have hfourth : candidate "log-in" 4 = "log-in-4" := by decide
  obtain rfl : 4 = k := candidate_injective (by decide) hk (hfourth.trans hends.eq_of_ok)
  rw [hfourth] at hends
  exact ⟨hfolder, htitled, hfiles, hsearches, hends⟩

theorem isStem_replicate (n : Nat) : IsStem (List.replicate (n + 1) 'a') := by
  have hmem : ∀ c ∈ List.replicate (n + 1) 'a', c = 'a' := fun _ => List.eq_of_mem_replicate
  exact
    { ne_nil := by simp
      isSlugChar := fun c hc => by rw [hmem c hc]; decide +kernel
      isSmall := fun c hc => by rw [hmem c hc]; decide +kernel
      separate := Text.separate_iff.mpr fun front back heq =>
        absurd (hmem '-' (by simp [heq])) (by decide)
      head := fun c hc => by rw [hmem c (List.mem_of_mem_head? hc)]; decide
      last := fun c hc => by rw [hmem c (List.mem_of_mem_getLast? hc)]; decide }

/-- A name that leaves no room for an ending has no slug, though no document is there. -/
theorem not_searches_long :
    let store : ScriptStore := { directory := ⟨"", ["scripts"]⟩ }
    let name := String.ofList (List.replicate 251 'a')
    store.folder? [("scripts", .folder [])] = some [] ∧ store.Titled [] ∧
      Store.slug name = name ∧ Table.get? [] (documentFile name) = (none : Option Entry) ∧
      store.slugFor [] name = .error (store.entryFault (documentFile name) .nameTooLong) := by
  intro store name
  have hfolder : store.folder? [("scripts", .folder [])] = some [] :=
    folder?_eq_some_iff.mpr ⟨["scripts"], by decide, rfl⟩
  have hname : name.toList = List.replicate 251 'a' := String.toList_ofList
  have hslug : Store.slug name = name :=
    slug_of_isStem (by rw [hname]; exact isStem_replicate 250)
  have hplain := notMem_text_join hfolder (isStem_slug name) 1
  rw [candidate_of_le _ (le_refl 1), hslug] at hplain
  have hfits : ¬ store.Fits name := by
    have hletters : (Text.Utf8.encode (List.replicate 251 'a')).length = 251 := by decide +kernel
    have hending : (Text.Utf8.encode ".json".toList).length = 5 := by decide
    rintro ⟨-, hfits⟩
    rw [nameFault?_eq_none_iff, documentFile, String.toList_append, length_encode_append, hname,
      hletters, hending] at hfits
    exact absurd hfits (by decide)
  refine ⟨hfolder, fun slug bytes document hget => by simp at hget, hslug, rfl, ?_⟩
  rw [slugFor, hslug, slugFrom, candidate_of_le _ (le_refl 1), ownerIn_of_not_fits hplain hfits]
  rfl

end ScriptStore

end BrowserFlow.Store
