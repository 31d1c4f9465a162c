import BrowserFlow.Proofs.Store.Listing
import BrowserFlow.Proofs.Store.Path

/-!
# Where the files of a slug are

A slug has no slash, so its files lie in the folder of the store itself. Their paths are
read as they are written, and lead to what the folder has under their names
(`ScriptStore.readFile_join`); so a document is loaded as it is found there
(`ScriptStore.load_eq_readDocument`).
-/

namespace BrowserFlow

namespace Text

theorem mem_of_mem_squeezeFrom {p : Char → Bool} {mark c : Char} {inside : Bool} {cs : List Char}
    (h : c ∈ squeezeFrom p mark inside cs) : c = mark ∨ c ∈ cs := by
  induction cs generalizing inside with
  | nil => exact absurd h List.not_mem_nil
  | cons d cs ih =>
      have hrest : ∀ {inside : Bool}, c ∈ squeezeFrom p mark inside cs → c = mark ∨ c ∈ d :: cs :=
        fun h => (ih h).imp_right (List.mem_cons_of_mem d)
      rw [squeezeFrom] at h
      split at h
      · split at h
        · exact hrest h
        · rcases List.mem_cons.mp h with h | h
          · exact Or.inl h
          · exact hrest h
      · rcases List.mem_cons.mp h with rfl | h
        · exact Or.inr List.mem_cons_self
        · exact hrest h

theorem mem_of_mem_trimBoth {p : Char → Bool} {c : Char} {cs : List Char}
    (h : c ∈ trimBoth p cs) : c ∈ cs := by
  have hback := (List.dropWhile_sublist _).subset (List.mem_reverse.mp h)
  exact (List.dropWhile_sublist _).subset (List.mem_reverse.mp hback)

end Text

namespace Store

open BrowserFlow.Store.Path (IsComponent)

theorem slash_notMem_slug (name : String) : '/' ∉ (slug name).toList := by
  unfold slug
  split
  · decide
  · rw [String.toList_ofList]
    intro hmem
    rcases Text.mem_of_mem_squeezeFrom (Text.mem_of_mem_trimBoth hmem) with h | h
    · exact absurd h (by decide)
    · exact absurd (List.mem_filter.mp h).2 (by decide +kernel)

/-- A slug with a number after it has no characters but those of the slug, a hyphen and digits. -/
theorem mem_candidate {base : String} {n : Nat} {c : Char} (h : c ∈ (candidate base n).toList) :
    c ∈ base.toList ∨ c = '-' ∨ c.isDigit = true := by
  rcases Nat.lt_or_ge 1 n with hn | hn
  · rw [candidate_of_lt base hn, String.toList_append, String.toList_append, Nat.toList_repr,
      List.mem_append, List.mem_append] at h
    rcases h with h | h | h
    · exact Or.inl h
    · exact Or.inr (Or.inl (List.mem_singleton.mp h))
    · exact Or.inr (Or.inr (Nat.isDigit_of_mem_toDigits (by decide) (by decide) h))
  · rw [candidate_of_le base hn] at h
    exact Or.inl h

theorem slash_notMem_candidate {base : String} (h : '/' ∉ base.toList) (n : Nat) :
    '/' ∉ (candidate base n).toList := by
  intro hmem
  rcases mem_candidate hmem with hbase | hhyphen | hdigit
  · exact h hbase
  · exact absurd hhyphen (by decide)
  · exact absurd hdigit (by decide)

/-- A name without a slash that ends in one of the two endings is a component. -/
theorem isComponent_scriptFile {slug : String} (h : '/' ∉ slug.toList) :
    IsComponent (scriptFile slug) := by
  have hlast : (scriptFile slug).toList.getLast? = some 'y' := by simp [scriptFile]
  refine ⟨⟨?_, ?_⟩, by simp [scriptFile, h]⟩ <;>
  · intro heq
    rw [heq] at hlast
    exact absurd hlast (by decide)

theorem isComponent_documentFile {slug : String} (h : '/' ∉ slug.toList) :
    IsComponent (documentFile slug) := by
  have hlast : (documentFile slug).toList.getLast? = some 'n' := by simp [documentFile]
  refine ⟨⟨?_, ?_⟩, by simp [documentFile, h]⟩ <;>
  · intro heq
    rw [heq] at hlast
    exact absurd hlast (by decide)

theorem Path.fault?_eq_none_iff {p : Path} :
    p.fault? = none ↔
      '\x00' ∉ p.text.toList ∧ (Text.Utf8.encode p.text.toList).length ≤ pathLimit := by
  unfold Path.fault?
  split
  · simp_all
  · split <;> simp_all

theorem nameFault?_eq_none_iff {name : String} :
    nameFault? name = none ↔ (Text.Utf8.encode name.toList).length ≤ nameLimit := by
  simp [nameFault?]

theorem length_encode_append (cs others : List Char) :
    (Text.Utf8.encode (cs ++ others)).length =
      (Text.Utf8.encode cs).length + (Text.Utf8.encode others).length := by
  rw [Text.Utf8.encode, List.flatMap_append, List.length_append]
  rfl

/-- The script of a slug has a path that can be followed if the document has one, which is
longer. -/
theorem ScriptStore.fault?_scriptFile_of_fits {store : ScriptStore} {slug : String}
    (h : store.Fits slug) (hslug : '/' ∉ slug.toList) :
    (store.directory.join (scriptFile slug)).fault? = none ∧
      nameFault? (scriptFile slug) = none := by
  obtain ⟨hpath, hname⟩ := h
  obtain ⟨front, hfront⟩ := Path.text_join store.directory
  have hscript := hfront _ (isComponent_scriptFile hslug)
  have hdocument := hfront _ (isComponent_documentFile hslug)
  have hendings : (Text.Utf8.encode ".py".toList).length ≤
      (Text.Utf8.encode ".json".toList).length := by decide
  rw [Path.fault?_eq_none_iff, hdocument, documentFile, String.toList_append,
    length_encode_append, length_encode_append, List.mem_append, List.mem_append, not_or,
    not_or] at hpath
  rw [nameFault?_eq_none_iff, documentFile, String.toList_append, length_encode_append] at hname
  rw [Path.fault?_eq_none_iff, nameFault?_eq_none_iff, hscript, scriptFile,
    String.toList_append, length_encode_append, length_encode_append, List.mem_append,
    List.mem_append, not_or, not_or]
  obtain ⟨⟨hfront, hslug, -⟩, hlength⟩ := hpath
  refine ⟨⟨⟨hfront, hslug, by decide⟩, ?_⟩, ?_⟩
  · omega
  · omega

namespace Entry

theorem at?_append {names : List String} {e : Entry} {folder : Folder}
    (h : e.at? names = some (.folder folder)) (name : String) :
    e.at? (names ++ [name]) = Table.get? folder name := by
  induction names generalizing e with
  | nil =>
      obtain rfl := Option.some.inj h
      rw [List.nil_append, at?]
      cases Table.get? folder name <;> rfl
  | cons first rest ih =>
      cases e with
      | file bytes => simp [at?] at h
      | folder entries =>
          cases hget : Table.get? entries first with
          | none => simp [at?, hget] at h
          | some child =>
              simp only [at?, hget] at h
              simp only [List.cons_append, at?, hget]
              exact ih h

end Entry

namespace Folder

/-- Where the components lead to a folder, one more leads to the entry of its name. -/
theorem locate_append {root folder : Folder} {here components names : List String}
    (h : locate root here components = .ok names)
    (hfolder : entryAt? root names = some (.folder folder)) {name : String}
    (hname : name ≠ outside) (hfault : nameFault? name = none) :
    locate root here (components ++ [name]) = .ok (names ++ [name]) := by
  induction components generalizing here with
  | nil =>
      obtain rfl := Except.ok.inj h
      have hstep : step here name = .ok (here ++ [name]) := by
        rw [step, if_neg (show name ≠ ".." from hname), hfault]
      simp only [List.nil_append, locate, hfolder, hstep]
      rfl
  | cons component rest ih =>
      cases hentry : entryAt? root here with
      | none => simp [locate, hentry] at h
      | some e =>
          cases e with
          | file bytes => simp [locate, hentry] at h
          | folder entries =>
              simp only [locate, hentry] at h
              simp only [List.cons_append, locate, hentry]
              cases hstep : step here component with
              | error fault => simp [hstep, bind, Except.bind] at h
              | ok next =>
                  simp only [hstep, bind, Except.bind] at h ⊢
                  exact ih h

theorem entryAt?_append {root folder : Folder} {names : List String}
    (h : entryAt? root names = some (.folder folder)) {name : String} {e : Entry}
    (he : Table.get? folder name = some e) : entryAt? root (names ++ [name]) = some e := by
  apply entryAt?_of_at?
  cases hat : Entry.at? (.folder root) names with
  | some other =>
      obtain rfl := Option.some.inj ((entryAt?_of_at? hat).symm.trans h)
      rw [Entry.at?_append hat, he]
  | none =>
      -- nothing is known of what is outside
      obtain ⟨-, hempty⟩ := entryAt?_of_at?_eq_none hat h
      obtain rfl := Entry.folder.inj hempty
      rw [Table.get?_nil] at he
      cases he

end Folder

namespace ScriptStore

variable {store : ScriptStore} {root folder : Folder} {name slug : String} {bytes : List UInt8}

theorem readFile_join (hfolder : store.folder? root = some folder) (hname : IsComponent name)
    (hinside : name ≠ Folder.outside) (hpath : (store.directory.join name).fault? = none)
    (hfault : nameFault? name = none) (hfile : Table.get? folder name = some (.file bytes)) :
    Folder.readFile root (store.directory.join name) = .ok bytes := by
  obtain ⟨names, hplace, hentry⟩ := folder?_eq_some_iff.mp hfolder
  rw [Folder.place] at hplace
  cases hdirectory : store.directory.fault? with
  | some fault => simp [hdirectory] at hplace
  | none =>
      rw [hdirectory] at hplace
      have hlocate := Folder.locate_append hplace hentry hinside hfault
      rw [Path.join_of_isComponent hname] at hpath ⊢
      have hfound := Folder.entryAt?_append hentry hfile
      simp [Folder.readFile, Folder.find, Folder.place, hpath, hlocate, hfound, bind, Except.bind]

theorem load_of_readFile
    (h : Folder.readFile root (store.directory.join (documentFile slug)) = .ok bytes) :
    store.load root slug = readDocument store.limits bytes := by
  unfold load
  generalize store.directory.join (documentFile slug) = path at h
  simp only [h]

theorem load_eq_readDocument (hfolder : store.folder? root = some folder)
    (hslug : '/' ∉ slug.toList) (hfits : store.Fits slug)
    (hfile : Table.get? folder (documentFile slug) = some (.file bytes)) :
    store.load root slug = readDocument store.limits bytes := by
  obtain ⟨hpath, hname⟩ := hfits
  exact load_of_readFile (readFile_join hfolder (isComponent_documentFile hslug)
    (documentFile_ne_outside slug) hpath hname hfile)

end ScriptStore

end Store

end BrowserFlow
