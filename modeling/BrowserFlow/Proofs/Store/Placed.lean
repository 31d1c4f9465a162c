import BrowserFlow.Proofs.Store.Place
import Mathlib.Data.Set.Basic

/-!
# What is put at a place

A file is written, or an empty folder made, at a place where there is no folder. What was put is
found there, the folder around it is where it was, and all other files are as before
(`Folder.Keeps`). So a folder that is made with all those above it is there afterwards and has
cost no file (`Folder.keeps_makeFolder`), and a file that is written is the only one that
differs (`Folder.exists_of_writeFile`).
-/

namespace BrowserFlow.Store

namespace Entry

variable {e new : Entry} {here names : List String} {folder other : Folder} {bytes : List UInt8}

theorem at?_append_eq (e : Entry) (front rest : List String) :
    e.at? (front ++ rest) = (e.at? front).bind (·.at? rest) := by
  induction front generalizing e with
  | nil => rfl
  | cons name front ih =>
      cases e with
      | file bytes => rfl
      | folder entries =>
          simp only [List.cons_append, at?]
          cases Table.get? entries name with
          | none => rfl
          | some child => exact ih child

theorem at?_put_append (h : e.at? here = some (.folder folder)) (name : String) :
    (put new (here ++ [name]) e).at? (here ++ [name]) = some new := by
  induction here generalizing e with
  | nil =>
      obtain rfl := Option.some.inj h
      simp [put, at?, Table.get?_set]
  | cons first rest ih =>
      cases e with
      | file bytes => simp [at?] at h
      | folder entries =>
          cases hget : Table.get? entries first with
          | none => simp [at?, hget] at h
          | some child =>
              simp only [at?, hget] at h
              simpa [put, at?, Table.get?_set, hget] using ih h

theorem at?_put_of_folder (new : Entry) (hfree : ∀ folder, e.at? names ≠ some (.folder folder))
    (h : e.at? here = some (.folder folder)) :
    ∃ left, (put new names e).at? here = some (.folder left) := by
  induction names generalizing e here with
  | nil =>
      -- there is no folder at all
      cases e with
      | file bytes => cases here <;> simp [at?] at h
      | folder entries => exact absurd rfl (hfree entries)
  | cons name rest ih =>
      cases e with
      | file bytes => cases here <;> simp [at?] at h
      | folder entries =>
          cases here with
          | nil => exact ⟨_, rfl⟩
          | cons first others =>
              by_cases hname : name = first
              · subst hname
                cases hget : Table.get? entries name with
                | none => simp [at?, hget] at h
                | some child =>
                    simp only [at?, hget] at h hfree
                    simpa [put, at?, Table.get?_set, hget] using ih hfree h
              · simp only [at?] at h
                simp only [put, at?, Table.get?_set, if_neg hname]
                exact ⟨folder, h⟩

/-- A file or an empty folder, put in the place of nothing that has entries, leaves all other
files as they are. -/
theorem at?_put_eq_file_iff (hnew : new.entries = [])
    (hold : ∀ folder, e.at? names = some (.folder folder) → folder = []) (hne : here ≠ names) :
    (put new names e).at? here = some (.file bytes) ↔ e.at? here = some (.file bytes) := by
  induction names generalizing e here with
  | nil =>
      cases here with
      | nil => exact absurd rfl hne
      | cons first others =>
          have hnone : ∀ {e : Entry}, e.entries = [] → e.at? (first :: others) = none := by
            intro e he
            cases e with
            | file bytes => rfl
            | folder entries =>
                obtain rfl : entries = [] := he
                rfl
          have he : e.entries = [] := by
            cases e with
            | file bytes => rfl
            | folder entries => exact hold entries rfl
          rw [put, hnone hnew, hnone he]
  | cons name rest ih =>
      cases e with
      | file bytes => rfl
      | folder entries =>
          cases here with
          | nil => simp [put, at?]
          | cons first others =>
              by_cases hname : name = first
              · subst hname
                have hrest : others ≠ rest := fun heq => hne (by rw [heq])
                simp only [put, at?, Table.get?_set, if_pos]
                cases hget : Table.get? entries name with
                | some child =>
                    simp only [at?, hget] at hold
                    exact ih hold hrest
                | none =>
                    -- a folder is made on the way, in which there is no file
                    have hempty : ∀ folder, Entry.at? (.folder []) rest = some (.folder folder) →
                        folder = [] := by
                      intro folder hfolder
                      cases rest with
                      | nil => exact (Entry.folder.inj (Option.some.inj hfolder)).symm
                      | cons next rest => simp [at?] at hfolder
                    rw [Option.getD_none, ih hempty hrest]
                    cases others <;> simp [at?]
              · simp only [put, at?, Table.get?_set, if_neg hname]

end Entry

namespace Folder

open BrowserFlow.Store.Path (IsComponent Plain)

variable {root left folder other : Folder} {here names components : List String} {path : Path}
  {name : String} {bytes : List UInt8} {new : Entry}

/-! ## Places -/

theorem entryAt?_eq_file_iff :
    entryAt? root here = some (.file bytes) ↔
      Entry.at? (.folder root) here = some (.file bytes) := by
  refine ⟨fun h => ?_, entryAt?_of_at?⟩
  cases hat : Entry.at? (.folder root) here with
  | some e => rw [← h, entryAt?_of_at? hat]
  | none => cases (entryAt?_of_at?_eq_none hat h).2

theorem exists_folder_of_entryAt? {e : Entry} (h : entryAt? root (here ++ [name]) = some e) :
    ∃ folder, entryAt? root here = some (.folder folder) := by
  cases hat : Entry.at? (.folder root) (here ++ [name]) with
  | some found =>
      rw [Entry.at?_append_eq, Option.bind_eq_some_iff] at hat
      obtain ⟨parent, hparent, hfound⟩ := hat
      cases parent with
      | file bytes => simp [Entry.at?] at hfound
      | folder folder => exact ⟨folder, entryAt?_of_at? hparent⟩
  | none =>
      obtain ⟨hplace, -⟩ := entryAt?_of_at?_eq_none hat h
      obtain rfl : here = [] := by simpa using congrArg List.length hplace
      exact ⟨root, rfl⟩

theorem step_cases {component : String} (h : step here component = .ok names) :
    names = [outside] ∨ names = here.dropLast ∨
      component ≠ outside ∧ names = here ++ [component] := by
  unfold step at h
  split_ifs at h with hback htop
  · exact Or.inl (Except.ok.inj h).symm
  · exact Or.inr (Or.inl (Except.ok.inj h).symm)
  · cases hfault : nameFault? component with
    | some fault => simp [hfault] at h
    | none =>
        simp only [hfault] at h
        exact Or.inr (Or.inr ⟨hback, (Except.ok.inj h).symm⟩)

theorem exists_of_locate_cons {component : String}
    (h : locate root here (component :: components) = .ok names) :
    ∃ folder next, entryAt? root here = some (.folder folder) ∧ step here component = .ok next ∧
      locate root next components = .ok names := by
  cases hentry : entryAt? root here with
  | none => simp [locate, hentry] at h
  | some e =>
      cases e with
      | file bytes => simp [locate, hentry] at h
      | folder entries =>
          simp only [locate, hentry] at h
          cases hstep : step here component with
          | error fault => simp [hstep, bind, Except.bind] at h
          | ok next =>
              simp only [hstep, bind, Except.bind] at h
              exact ⟨entries, next, rfl, rfl, h⟩

theorem place_eq_ok_iff :
    place root path = .ok names ↔ path.fault? = none ∧
      locate root (if path.root = "" then [] else [outside]) path.components = .ok names := by
  unfold place
  cases path.fault? <;> simp

/-- The place is the working directory, or in a folder. -/
def IsOpen (root : Folder) (names : List String) : Prop :=
  names = [] ∨ ∃ here name folder, names = here ++ [name] ∧
    entryAt? root here = some (.folder folder)

theorem isOpen_outside (root : Folder) : root.IsOpen [outside] :=
  Or.inr ⟨[], outside, root, rfl, rfl⟩

theorem isOpen_of_entryAt? {e : Entry} (h : entryAt? root names = some e) : root.IsOpen names := by
  rcases List.eq_nil_or_concat names with rfl | ⟨here, name, rfl⟩
  · exact Or.inl rfl
  · rw [List.concat_eq_append] at h ⊢
    obtain ⟨folder, hfolder⟩ := exists_folder_of_entryAt? h
    exact Or.inr ⟨here, name, folder, rfl, hfolder⟩

theorem isOpen_of_locate (hopen : root.IsOpen here) (h : locate root here components = .ok names) :
    root.IsOpen names := by
  induction components generalizing here with
  | nil =>
      obtain rfl := Except.ok.inj h
      exact hopen
  | cons component rest ih =>
      obtain ⟨folder, next, hfolder, hstep, hrest⟩ := exists_of_locate_cons h
      refine ih ?_ hrest
      rcases step_cases hstep with rfl | rfl | ⟨-, rfl⟩
      · exact isOpen_outside root
      · rcases isOpen_of_entryAt? hfolder with rfl | ⟨above, last, folder, rfl, habove⟩
        · exact Or.inl rfl
        · rw [List.dropLast_concat]
          exact isOpen_of_entryAt? habove
      · exact Or.inr ⟨here, component, folder, rfl, hfolder⟩

theorem isOpen_of_place (h : place root path = .ok names) : root.IsOpen names := by
  refine isOpen_of_locate ?_ (place_eq_ok_iff.mp h).2
  split
  · exact Or.inl rfl
  · exact isOpen_outside root

theorem locate_append_eq (root : Folder) (here front rest : List String) :
    locate root here (front ++ rest) = (locate root here front).bind (locate root · rest) := by
  induction front generalizing here with
  | nil => rfl
  | cons component front ih =>
      simp only [List.cons_append, locate]
      cases entryAt? root here with
      | none => rfl
      | some e =>
          cases e with
          | file bytes => rfl
          | folder entries =>
              cases step here component with
              | error fault => rfl
              | ok next => exact ih next

/-- Components that do not lead back are the names of the place. -/
theorem eq_append_of_locate (hinside : ∀ component ∈ components, component ≠ outside)
    (h : locate root here components = .ok names) : names = here ++ components := by
  induction components generalizing here with
  | nil => rw [List.append_nil, Except.ok.inj h]
  | cons component rest ih =>
      rw [List.forall_mem_cons] at hinside
      obtain ⟨-, next, -, hstep, hrest⟩ := exists_of_locate_cons h
      rw [step, if_neg (show component ≠ ".." from hinside.1)] at hstep
      cases hfault : nameFault? component with
      | some fault => simp [hfault] at hstep
      | none =>
          simp only [hfault] at hstep
          rw [ih hinside.2 hrest, ← Except.ok.inj hstep, List.append_assoc, List.singleton_append]

/-- The place of what a component names in a directory is there under its name. -/
theorem eq_append_of_place_join {directory : Path} (hdirectory : place root directory = .ok here)
    (hname : IsComponent name) (hinside : name ≠ outside)
    (h : place root (directory.join name) = .ok names) : names = here ++ [name] := by
  rw [Path.join_of_isComponent hname, place_eq_ok_iff] at h
  have hlocate := h.2
  rw [locate_append_eq, (place_eq_ok_iff.mp hdirectory).2] at hlocate
  exact eq_append_of_locate (by simpa using hinside) hlocate

theorem slash_notMem_of_locate (hhere : ∀ part ∈ here, '/' ∉ part.toList)
    (hcomponents : ∀ part ∈ components, '/' ∉ part.toList)
    (h : locate root here components = .ok names) : ∀ part ∈ names, '/' ∉ part.toList := by
  induction components generalizing here with
  | nil =>
      obtain rfl := Except.ok.inj h
      exact hhere
  | cons component rest ih =>
      rw [List.forall_mem_cons] at hcomponents
      obtain ⟨-, next, -, hstep, hrest⟩ := exists_of_locate_cons h
      refine ih ?_ hcomponents.2 hrest
      rcases step_cases hstep with rfl | rfl | ⟨-, rfl⟩
      · rw [List.forall_mem_singleton]
        decide
      · exact fun part hpart => hhere part (List.dropLast_subset here hpart)
      · rw [List.forall_mem_append, List.forall_mem_singleton]
        exact ⟨hhere, hcomponents.1⟩

theorem slash_notMem_of_place (hplain : path.Plain) (h : place root path = .ok names) :
    ∀ part ∈ names, '/' ∉ part.toList := by
  refine slash_notMem_of_locate ?_ (fun part hpart => (hplain.isComponent part hpart).2)
    (place_eq_ok_iff.mp h).2
  split
  · exact fun _ hpart => absurd hpart List.not_mem_nil
  · rw [List.forall_mem_singleton]
    decide

/-! ## What is put there -/

/-- In `left` every folder of `root` is a folder, and the files at some places are the same. -/
structure Keeps (root left : Folder) (places : Set (List String)) : Prop where
  folder {here : List String} {folder : Folder}
    (folder_eq : entryAt? root here = some (.folder folder)) :
    ∃ other, entryAt? left here = some (.folder other)
  file_iff {here : List String} (mem : here ∈ places) (bytes : List UInt8) :
    entryAt? left here = some (.file bytes) ↔ entryAt? root here = some (.file bytes)

theorem Keeps.refl (root : Folder) (places : Set (List String)) : root.Keeps root places :=
  ⟨fun h => ⟨_, h⟩, fun _ _ => Iff.rfl⟩

theorem Keeps.trans {places : Set (List String)} (h : root.Keeps left places)
    (hother : left.Keeps other places) : root.Keeps other places where
  folder hfolder := by
    obtain ⟨_, hleft⟩ := h.folder hfolder
    exact hother.folder hleft
  file_iff hmem bytes := (hother.file_iff hmem bytes).trans (h.file_iff hmem bytes)

theorem Keeps.mono {places others : Set (List String)} (h : root.Keeps left places)
    (hsubset : others ⊆ places) : root.Keeps left others :=
  ⟨h.folder, fun hmem => h.file_iff (hsubset hmem)⟩

theorem Keeps.place {places : Set (List String)} (h : root.Keeps left places)
    (hplace : place root path = .ok names) : Folder.place left path = .ok names := by
  rw [place_eq_ok_iff] at hplace ⊢
  exact ⟨hplace.1, locate_mono (fun _ _ => h.folder) hplace.2⟩

theorem folder_entries_put_of_ne_nil (root : Folder) (hne : names ≠ []) :
    .folder (Entry.put new names (.folder root)).entries = Entry.put new names (.folder root) := by
  cases names with
  | nil => exact absurd rfl hne
  | cons name rest => rfl

/-- What is put in the place of no folder is found there. -/
theorem entryAt?_put_of_isOpen (new : Entry) (hopen : root.IsOpen names)
    (hfree : ∀ folder, entryAt? root names ≠ some (.folder folder)) :
    entryAt? (Entry.put new names (.folder root)).entries names = some new := by
  rcases hopen with rfl | ⟨here, name, folder, rfl, hfolder⟩
  · exact absurd rfl (hfree root)
  · apply entryAt?_of_at?
    rw [folder_entries_put_of_ne_nil root (by simp)]
    cases hat : Entry.at? (.folder root) here with
    | some e =>
        obtain rfl := Option.some.inj ((entryAt?_of_at? hat).symm.trans hfolder)
        exact Entry.at?_put_append hat name
    | none =>
        obtain ⟨rfl, -⟩ := entryAt?_of_at?_eq_none hat hfolder
        simp [Entry.put, Entry.at?, Table.get?_set, get?_outside_of_at? hat]

/-- What is outside stays a folder where nothing was known in it. -/
theorem exists_folder_outside_put (hnone : Table.get? root outside = none)
    (hfree : ∀ folder, entryAt? root names ≠ some (.folder folder)) :
    ∃ folder, entryAt? (Entry.put new names (.folder root)).entries [outside] =
      some (.folder folder) := by
  cases names with
  | nil => exact absurd rfl (hfree root)
  | cons name rest =>
      by_cases hname : name = outside
      · subst hname
        cases rest with
        | nil => exact absurd (entryAt?_outside hnone) (hfree [])
        | cons next rest =>
            -- a folder is made for what is put there
            refine ⟨(Entry.put new (next :: rest) (.folder [])).entries, entryAt?_of_at? ?_⟩
            simp [Entry.put, Entry.entries, Entry.at?, Table.get?_set, hnone]
      · refine ⟨[], entryAt?_outside ?_⟩
        rw [Entry.put, Entry.entries, Table.get?_set, if_neg hname, hnone]

/-- What has no entries and is put in the place of no folder leaves everything else. -/
theorem keeps_put (new : Entry) (hnew : new.entries = [])
    (hfree : ∀ folder, entryAt? root names ≠ some (.folder folder)) :
    root.Keeps (Entry.put new names (.folder root)).entries (Set.compl {names}) := by
  have hne : names ≠ [] := by
    rintro rfl
    exact hfree root rfl
  have hfreeAt : ∀ folder, Entry.at? (.folder root) names ≠ some (.folder folder) :=
    fun folder hat => hfree folder (entryAt?_of_at? hat)
  refine ⟨fun {here folder} hfolder => ?_, fun {here} hmem bytes => ?_⟩
  · cases hat : Entry.at? (.folder root) here with
    | some e =>
        obtain rfl := Option.some.inj ((entryAt?_of_at? hat).symm.trans hfolder)
        obtain ⟨left, hleft⟩ := Entry.at?_put_of_folder new hfreeAt hat
        exact ⟨left, entryAt?_of_at? (by rw [folder_entries_put_of_ne_nil root hne, hleft])⟩
    | none =>
        obtain ⟨rfl, -⟩ := entryAt?_of_at?_eq_none hat hfolder
        exact exists_folder_outside_put (get?_outside_of_at? hat) hfree
  · rw [entryAt?_eq_file_iff, entryAt?_eq_file_iff, folder_entries_put_of_ne_nil root hne]
    exact Entry.at?_put_eq_file_iff hnew (fun folder hat => absurd hat (hfreeAt folder)) hmem

/-! ## Folders that are made -/

theorem hasFolder_iff :
    hasFolder root path = true ↔
      ∃ names folder, place root path = .ok names ∧
        entryAt? root names = some (.folder folder) := by
  unfold hasFolder find
  cases hplace : place root path with
  | error fault => simp [bind, Except.bind]
  | ok names =>
      cases hentry : entryAt? root names with
      | none => simp [bind, Except.bind, hentry]
      | some e => cases e <;> simp [bind, Except.bind, hentry]

theorem keeps_makeOne (h : makeOne root path = .ok left) :
    root.Keeps left Set.univ ∧ hasFolder left path = true := by
  rw [makeOne] at h
  cases hplace : Folder.place root path with
  | error fault => simp [hplace, bind, Except.bind] at h
  | ok names =>
      simp only [hplace, bind, Except.bind] at h
      cases hentry : entryAt? root names with
      | some e => simp [hentry] at h
      | none =>
          simp only [hentry] at h
          obtain rfl := Except.ok.inj h
          have hfree : ∀ folder, entryAt? root names ≠ some (.folder folder) := by
            simp [hentry]
          have hmade := entryAt?_put_of_isOpen (.folder []) (isOpen_of_place hplace) hfree
          have hkeeps := keeps_put (.folder []) rfl hfree
          refine ⟨⟨hkeeps.folder, fun {here} _ bytes => ?_⟩,
            hasFolder_iff.mpr ⟨names, [], hkeeps.place hplace, hmade⟩⟩
          by_cases hhere : here = names
          · -- where the folder is made there was no file
            rw [hhere, hmade, hentry]
            simp
          · exact hkeeps.file_iff hhere bytes

theorem keeps_ensureOne {outcome : Except Obstacle Unit}
    (h : ensureOne root path = (left, outcome)) :
    root.Keeps left Set.univ ∧ (outcome = .ok () → hasFolder left path = true) := by
  rw [ensureOne] at h
  cases hmake : makeOne root path with
  | ok made =>
      simp only [hmake] at h
      obtain ⟨rfl, rfl⟩ := Prod.mk.inj h
      obtain ⟨hkeeps, hhas⟩ := keeps_makeOne hmake
      exact ⟨hkeeps, fun _ => hhas⟩
  | error fault =>
      simp only [hmake] at h
      obtain ⟨rfl, rfl⟩ := Prod.mk.inj h
      refine ⟨Keeps.refl root _, fun hok => ?_⟩
      split at hok
      · assumption
      · cases hok

theorem keeps_makeLevels {slashes : String} {levels : Nat} {back : List String}
    {outcome : Except Obstacle Unit} (h : makeLevels root slashes levels back = (left, outcome)) :
    root.Keeps left Set.univ ∧
      (outcome = .ok () → hasFolder left ⟨slashes, back.reverse⟩ = true) := by
  induction back generalizing levels left outcome with
  | nil =>
      cases levels <;> exact keeps_ensureOne h
  | cons last above ih =>
      cases levels with
      | zero =>
          obtain ⟨rfl, rfl⟩ := Prod.mk.inj h
          exact ⟨Keeps.refl root _, fun hok => by cases hok⟩
      | succ levels =>
          rw [makeLevels] at h
          split at h
          · cases hmade : makeLevels root slashes levels above with
            | mk made stopped =>
                obtain ⟨hkeeps, -⟩ := ih hmade
                rw [hmade] at h
                cases stopped with
                | error obstacle =>
                    obtain ⟨rfl, rfl⟩ := Prod.mk.inj h
                    exact ⟨hkeeps, fun hok => by cases hok⟩
                | ok =>
                    obtain ⟨hrest, hhas⟩ := keeps_ensureOne h
                    exact ⟨hkeeps.trans hrest, hhas⟩
          · exact keeps_ensureOne h

/-- Making a folder costs no file, and the folder is there if nothing was in the way. -/
theorem keeps_makeFolder {outcome : Except Obstacle Unit}
    (h : makeFolder root path = (left, outcome)) :
    root.Keeps left Set.univ ∧ (outcome = .ok () → hasFolder left path = true) := by
  have hpath : (⟨path.root, path.components.reverse.reverse⟩ : Path) = path := by
    rw [List.reverse_reverse]
  have hlevels := keeps_makeLevels h
  rwa [hpath] at hlevels

/-! ## Files that are written -/

/-- A file that is written is found under its path, and all others are as before. -/
theorem exists_of_writeFile (h : writeFile root path (.file bytes) = .ok left) :
    ∃ names, place left path = .ok names ∧ entryAt? left names = some (.file bytes) ∧
      root.Keeps left (Set.compl {names}) := by
  rw [writeFile] at h
  cases hplace : Folder.place root path with
  | error fault => simp [hplace, bind, Except.bind] at h
  | ok names =>
      simp only [hplace, bind, Except.bind] at h
      have hfree : ∀ folder, entryAt? root names ≠ some (.folder folder) := by
        intro folder hfolder
        simp [hfolder] at h
      have hleft : left = (Entry.put (.file bytes) names (.folder root)).entries := by
        split at h
        · cases h
        · exact (Except.ok.inj h).symm
      rw [hleft]
      have hkeeps := keeps_put (.file bytes) rfl hfree
      exact ⟨names, hkeeps.place hplace,
        entryAt?_put_of_isOpen (.file bytes) (isOpen_of_place hplace) hfree, hkeeps⟩

end Folder

end BrowserFlow.Store
