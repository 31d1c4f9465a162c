import BrowserFlow.Command.Compile
import BrowserFlow.Proofs.Script.Halves
import BrowserFlow.Proofs.Store.Placed
import BrowserFlow.Proofs.Text.Small

/-!
# What a run of the command leaves

A run that complains has changed nothing, and one that ends well has written the script of the
document to one file and left all others as they were (`run_outcome`). The file lies in the output
directory itself just if the name of the script has no slash: letters become small and hyphens and
blanks low lines, but a slash stays what it is.
-/

namespace BrowserFlow.Command

open BrowserFlow.Store (Entry Folder Path PathFault StoreFault)

variable {limits : Json.Limits} {root left : Folder} {options : Options} {script : String}

/-! ## The plan -/

def Compiles (limits : Json.Limits) (root : Folder) (options : Options) (script : String) : Prop :=
  ∃ bytes g, Folder.readFile root (Path.ofString options.document) = .ok bytes ∧
    (Document.loadFile limits (Path.ofString options.document).text bytes).result = .ok g ∧
    (g.compile options.headless).result = .ok script

def Options.file (options : Options) (directory : Path) : Path :=
  directory.join (scriptFilename (scriptName options))

/-- What there can be to do: nothing more, which is well if the script was only to be printed, or
to write the script of the document. -/
inductive Plans (limits : Json.Limits) (root : Folder) (options : Options) : Plan → Prop
  | finish (report : Report) (printed : report.ending = .exit 0 → options.printOnly = true) :
      Plans limits root options (.finish report)
  | write (out script : String) (done : Report) (written : options.printOnly = false)
      (out_eq : options.out = some out) (compiles : Compiles limits root options script)
      (ending_eq : done.ending = .exit 0) :
      Plans limits root options
        (.write ⟨Path.ofString out, options.file (Path.ofString out), script, done⟩)

theorem plans_deliver {g : Graph} {records : List Record}
    (hcompiles : Compiles limits root options script) :
    Plans limits root options (deliver options g records script) := by
  unfold deliver
  split
  · exact .finish _ fun _ => by assumption
  · rename_i hprint
    split
    · exact .finish _ fun h => by cases h
    · rename_i out hout
      exact .write out script _ (Bool.eq_false_of_not_eq_true hprint) hout hcompiles rfl

theorem plans_planBytes {bytes : List UInt8}
    (hread : Folder.readFile root (Path.ofString options.document) = .ok bytes) :
    Plans limits root options (planBytes limits options bytes) := by
  unfold planBytes
  dsimp only
  split
  · exact .finish _ fun h => by cases h
  · exact .finish _ fun h => by cases h
  · rename_i g hload
    split
    · exact .finish _ fun h => by cases h
    · exact .finish _ fun h => by cases h
    · rename_i script hcompile
      exact plans_deliver ⟨bytes, g, hread, hload, hcompile⟩

theorem plans (limits : Json.Limits) (root : Folder) (options : Options) :
    Plans limits root options
      (plan limits options (sourceIn root (Path.ofString options.document))) := by
  unfold sourceIn
  split
  · rename_i bytes hread
    exact plans_planBytes hread
  all_goals exact .finish _ fun h => by cases h

/-! ## The delivery -/

/-- `left` is `root` with the script in one file: all other files are as they were, every folder
is still a folder, and the directory of the file is there. -/
structure Written (root left : Folder) (directory file : Path) (script : String)
    (here names : List String) : Prop where
  directory_place : Folder.place left directory = .ok here
  directory_folder : ∃ folder, Folder.entryAt? left here = some (.folder folder)
  file_place : Folder.place left file = .ok names
  file_entry : Folder.entryAt? left names = some (.file (Text.Utf8.encode script.toList))
  keeps : root.Keeps left (Set.compl {names})

theorem writing_cases (w : Delivery) :
    w.writing = (.file (Text.Utf8.encode w.script.toList), w.done) ∨
      ∃ file report failure, w.writing = (file, report) ∧ report.ending = .raised failure := by
  unfold Delivery.writing Entry.writing
  cases Text.Utf8.unwritable? w.script.toList with
  | none => exact Or.inl rfl
  | some u => exact Or.inr ⟨_, _, _, rfl, rfl⟩

theorem written_of_carryOut {w : Delivery} {report : Report}
    (h : w.carryOut root = (left, report)) :
    (∃ failure, report.ending = .raised failure) ∨
      report = w.done ∧ ∃ here names, Written root left w.folder w.file w.script here names := by
  unfold Delivery.carryOut at h
  cases hmake : Folder.makeFolder root w.folder with
  | mk made outcome =>
      obtain ⟨hmade, hhas⟩ := Folder.keeps_makeFolder hmake
      rw [hmake] at h
      cases outcome with
      | error obstacle =>
          obtain ⟨-, rfl⟩ := Prod.mk.inj h
          exact Or.inl ⟨_, rfl⟩
      | ok =>
          dsimp only at h
          split at h
          · obtain ⟨-, rfl⟩ := Prod.mk.inj h
            exact Or.inl ⟨_, rfl⟩
          · rename_i written hwrite
            obtain ⟨rfl, rfl⟩ := Prod.mk.inj h
            rcases writing_cases w with hwriting | ⟨file, report, failure, hwriting, hending⟩
            · rw [hwriting] at hwrite ⊢
              obtain ⟨names, hplace, hentry, hkeeps⟩ := Folder.exists_of_writeFile hwrite
              obtain ⟨here, folder, hhere, hfolder⟩ := Folder.hasFolder_iff.mp (hhas rfl)
              refine Or.inr ⟨rfl, here, names, ?_⟩
              exact
                { directory_place := hkeeps.place hhere
                  directory_folder := hkeeps.folder hfolder
                  file_place := hplace
                  file_entry := hentry
                  keeps := (hmade.mono (Set.subset_univ _)).trans hkeeps }
            · rw [hwriting]
              exact Or.inl ⟨failure, hending⟩

/-- A delivery with a script that has bytes is done where its folder can be made and no folder has
the place of the file. -/
theorem carryOut_eq_done {folder file : Path} {done : Report} {made : Folder} {names : List String}
    (hmake : Folder.makeFolder root folder = (made, .ok ()))
    (hwhole : Text.isWhole script.toList = true) (hplace : Folder.place made file = .ok names)
    (hfree : ∀ other, Folder.entryAt? made names ≠ some (.folder other)) :
    (Delivery.carryOut ⟨folder, file, script, done⟩ root).2 = done := by
  have hwriting : Delivery.writing ⟨folder, file, script, done⟩ =
      (.file (Text.Utf8.encode script.toList), done) := by
    rw [Delivery.writing, Store.writing_of_isWhole hwhole]
  obtain ⟨written, hwrite⟩ : ∃ written,
      Folder.writeFile made file (.file (Text.Utf8.encode script.toList)) = .ok written := by
    unfold Folder.writeFile
    rw [hplace]
    dsimp only [bind, Except.bind]
    split
    · exact absurd ‹_› (hfree _)
    · exact ⟨_, rfl⟩
  rw [Delivery.carryOut, hmake]
  dsimp only
  rw [hwriting]
  dsimp only
  rw [hwrite]

/-! ## The name of the file -/

theorem slash_mem_scriptFilename_iff {name : String} :
    '/' ∈ (scriptFilename name).toList ↔ '/' ∈ name.toList := by
  have hlone : Text.isLone '/' = true := by decide +kernel
  have hmap : ∀ cs : List Char,
      '/' ∈ cs.map (fun c => if c = '-' ∨ c = ' ' then '_' else c) ↔ '/' ∈ cs := by
    intro cs
    rw [List.mem_map]
    constructor
    · rintro ⟨c, hc, heq⟩
      split at heq
      · exact absurd heq (by decide)
      · rwa [← heq]
    · exact fun h => ⟨'/', h, by decide⟩
  have hending : '/' ∉ ".py".toList := by decide
  rw [scriptFilename, String.toList_append, String.toList_ofList, List.mem_append, hmap,
    Text.mem_lower_iff hlone]
  exact or_iff_left hending

/-- The script lies in the directory itself, under its own name, just if the name of the script
has no slash. -/
theorem Written.eq_append_iff {directory : Path} {here names : List String}
    (hplain : directory.Plain)
    (h : Written root left directory (options.file directory) script here names) :
    names = here ++ [scriptFilename (scriptName options)] ↔
      '/' ∉ (scriptName options).toList := by
  rw [← slash_mem_scriptFilename_iff]
  constructor
  · rintro rfl
    exact Folder.slash_notMem_of_place (hplain.join _) h.file_place _ (by simp)
  · intro hslash
    have hcomponent : Path.IsComponent (scriptFilename (scriptName options)) := by
      refine Store.isComponent_scriptFile fun hmem => hslash ?_
      rw [scriptFilename, String.toList_append]
      exact List.mem_append_left _ hmem
    exact Folder.eq_append_of_place_join h.directory_place hcomponent
      (Store.scriptFile_ne_outside _) h.file_place

/-! ## A run -/

/-- A script is written where its folder can be made and no folder has the place of its file. -/
theorem ending_of_compiles {arguments : List String} (hparse : parse arguments = .ok options)
    (hprint : options.printOnly = false) {out : String} (hout : options.out = some out)
    (hcompiles : Compiles limits root options script)
    (hwhole : Text.isWhole script.toList = true) {made : Folder} {names : List String}
    (hmake : Folder.makeFolder root (Path.ofString out) = (made, .ok ()))
    (hplace : Folder.place made (options.file (Path.ofString out)) = .ok names)
    (hfree : ∀ folder, Folder.entryAt? made names ≠ some (.folder folder)) :
    (run limits root arguments).2.ending = .exit 0 := by
  obtain ⟨bytes, g, hread, hload, hcompile⟩ := hcompiles
  obtain ⟨done, hplan, hending⟩ : ∃ done,
      plan limits options (sourceIn root (Path.ofString options.document)) =
        .write ⟨Path.ofString out, options.file (Path.ofString out), script, done⟩ ∧
      done.ending = .exit 0 := by
    rw [sourceIn, hread]
    simp only [plan, planBytes, hload, hcompile, deliver, hprint, hout, Bool.false_eq_true,
      if_false, Options.file]
    exact ⟨_, rfl, rfl⟩
  rw [run, hparse]
  dsimp only
  rw [hplan, Plan.carryOut, carryOut_eq_done hmake hwhole hplace hfree, hending]

/-- How a run ends: nothing has changed, and it ends well only if it prints; it fails; or the
script of the document is written. -/
theorem run_cases (limits : Json.Limits) (root : Folder) {arguments : List String}
    (hparse : parse arguments = .ok options) :
    ((run limits root arguments).1 = root ∧
        ((run limits root arguments).2.ending = .exit 0 → options.printOnly = true)) ∨
      (∃ failure, (run limits root arguments).2.ending = .raised failure) ∨
      (run limits root arguments).2.ending = .exit 0 ∧ options.printOnly = false ∧
        ∃ out script here names, options.out = some out ∧ Compiles limits root options script ∧
          Written root (run limits root arguments).1 (Path.ofString out)
            (options.file (Path.ofString out)) script here names := by
  have hrun : run limits root arguments =
      (plan limits options (sourceIn root (Path.ofString options.document))).carryOut root := by
    rw [run, hparse]
  have hplans := plans limits root options
  rw [hrun]
  generalize plan limits options (sourceIn root (Path.ofString options.document)) = plan at hplans
  cases hplans with
  | finish report hprinted => exact Or.inl ⟨rfl, hprinted⟩
  | write out script done hwritten hout hcompiles hending =>
      rw [Plan.carryOut]
      generalize hw : Delivery.mk _ _ script done = w
      cases hcarry : w.carryOut root with
      | mk left report =>
          rcases written_of_carryOut hcarry with hfailed | ⟨hreport, here, names, h⟩
          · exact Or.inr (Or.inl hfailed)
          · subst hw
            dsimp only at h hreport
            rw [hreport]
            exact Or.inr (Or.inr ⟨hending, hwritten, out, script, here, names, hout, hcompiles, h⟩)

/-- A run that ends well and does not print has written the script of the document. -/
theorem exists_written {arguments : List String} (hparse : parse arguments = .ok options)
    (hending : (run limits root arguments).2.ending = .exit 0)
    (hprint : options.printOnly = false) :
    ∃ out script here names, options.out = some out ∧ Compiles limits root options script ∧
      Written root (run limits root arguments).1 (Path.ofString out)
        (options.file (Path.ofString out)) script here names := by
  rcases run_cases limits root hparse with ⟨-, hprinted⟩ | ⟨failure, hfailed⟩ | ⟨-, -, hwritten⟩
  · rw [hprinted hending] at hprint
    cases hprint
  · rw [hfailed] at hending
    cases hending
  · exact hwritten

/-- A run that ends with a complaint has changed nothing, and neither has one that prints. One that
ends well has written the script of the document, to one file, which lies in the output directory
just if the name of the script has no slash. -/
theorem run_outcome (limits : Json.Limits) (root : Folder) {arguments : List String}
    {options : Options} (parse_eq : parse arguments = .ok options) :
    ((run limits root arguments).2.ending = .exit 1 → (run limits root arguments).1 = root) ∧
      ((run limits root arguments).2.ending = .exit 0 → options.printOnly = true →
        (run limits root arguments).1 = root) ∧
      ((run limits root arguments).2.ending = .exit 0 → options.printOnly = false →
        ∃ out script here names, options.out = some out ∧ Compiles limits root options script ∧
          Written root (run limits root arguments).1 (Path.ofString out)
            (options.file (Path.ofString out)) script here names ∧
          (names = here ++ [scriptFilename (scriptName options)] ↔
            '/' ∉ (scriptName options).toList)) := by
  refine ⟨fun hending => ?_, fun hending hprint => ?_, fun hending hprint => ?_⟩
  · rcases run_cases limits root parse_eq with ⟨hleft, -⟩ |
      ⟨failure, hfailed⟩ | ⟨hwell, -⟩
    · exact hleft
    · rw [hfailed] at hending
      cases hending
    · rw [hwell] at hending
      cases hending
  · rcases run_cases limits root parse_eq with ⟨hleft, -⟩ |
      ⟨failure, hfailed⟩ | ⟨-, hwritten, -⟩
    · exact hleft
    · rw [hfailed] at hending
      cases hending
    · rw [hprint] at hwritten
      cases hwritten
  · obtain ⟨out, script, here, names, hout, hcompiles, h⟩ := exists_written parse_eq hending hprint
    exact ⟨out, script, here, names, hout, hcompiles, h,
      h.eq_append_iff (Path.plain_ofString out)⟩

def startOnly : Folder :=
  [("flow.json", .file (Text.Utf8.encode
    "\x7b\"nodes\":[\x7b\"id\":\"s\",\"kind\":\"start\"\x7d],\"edges\":[]\x7d".toList))]

theorem compiles_startOnly {options : Options} (hdocument : options.document = "flow.json")
    (hheadless : options.headless = true) :
    ∃ script, Compiles {} startOnly options script ∧ Text.isWhole script.toList = true := by
  let node : Node := ⟨"s", .start, {}, .empty⟩
  have hload : ∃ bytes, Folder.readFile startOnly (Path.ofString "flow.json") = .ok bytes ∧
      (Document.loadFile {} (Path.ofString "flow.json").text bytes).result = .ok ⟨[node], []⟩ :=
    ⟨_, rfl, by decide +kernel⟩
  have horder : Graph.order? ⟨[node], []⟩ = some [node] := by decide +kernel
  have hwhole : Text.isWhole (Script.assemble [node] true).toList = true := by
    rw [Script.isWhole_assemble_iff, List.forall_mem_singleton]
    decide +kernel
  obtain ⟨bytes, hread, hload⟩ := hload
  refine ⟨Script.assemble [node] true, ⟨bytes, ⟨[node], []⟩, ?_, ?_, ?_⟩, hwhole⟩
  · rw [hdocument, hread]
  · rw [hdocument, hload]
  · rw [hheadless, Graph.result_compile, horder]
    rfl

theorem ending_startOnly (names : List String) {arguments : List String} {options : Options}
    (hparse : parse arguments = .ok options) (hdocument : options.document = "flow.json")
    (hheadless : options.headless = true) (hprint : options.printOnly = false)
    (hout : options.out = some "out")
    (hplace : Folder.place (Folder.makeFolder startOnly (Path.ofString "out")).1
      (options.file (Path.ofString "out")) = .ok names)
    (hfree : (Folder.entryAt? (Folder.makeFolder startOnly (Path.ofString "out")).1
      names).isNone = true) :
    (run {} startOnly arguments).2.ending = .exit 0 := by
  have hmake : (Folder.makeFolder startOnly (Path.ofString "out")).2 = .ok () := by decide +kernel
  obtain ⟨script, hcompiles, hwhole⟩ := compiles_startOnly hdocument hheadless
  cases hmade : Folder.makeFolder startOnly (Path.ofString "out") with
  | mk made outcome =>
      rw [hmade] at hmake hplace hfree
      dsimp only at hmake hplace hfree
      rw [hmake] at hmade
      refine ending_of_compiles hparse hprint hout hcompiles hwhole hmade hplace fun folder => ?_
      simp [Option.isNone_iff_eq_none.mp hfree]

/-- The script goes to a directory that is made for it. -/
theorem run_outcome_login :
    let arguments := ["flow.json", "--out", "out", "--name", "Log-In"]
    parse arguments = .ok { document := "flow.json", out := some "out", name := some "Log-In" } ∧
      (run {} startOnly arguments).2.ending = .exit 0 ∧
      ∃ script : String, Folder.entryAt? (run {} startOnly arguments).1 ["out", "log_in.py"] =
        some (.file (Text.Utf8.encode script.toList)) := by
  intro arguments
  have hparse : parse arguments =
      .ok { document := "flow.json", out := some "out", name := some "Log-In" } := by decide +kernel
  have hending : (run {} startOnly arguments).2.ending = .exit 0 := by
    refine ending_startOnly ["out", "log_in.py"] hparse rfl rfl rfl rfl ?_ ?_
    · decide +kernel
    · decide +kernel
  refine ⟨hparse, hending, ?_⟩
  obtain ⟨-, -, hwritten⟩ := run_outcome {} startOnly hparse
  obtain ⟨out, script, here, names, hout, -, h, hnames⟩ := hwritten hending rfl
  obtain rfl := Option.some.inj hout
  have hdirectory : Path.ofString "out" = ⟨"", ["out"]⟩ := by decide +kernel
  have hfile : scriptFilename "Log-In" = "log_in.py" := by decide +kernel
  have hhere : here = ["out"] := by
    have hplace := h.directory_place
    rw [hdirectory, Folder.place_eq_ok_iff] at hplace
    exact Folder.eq_append_of_locate (by decide) hplace.2
  have hslash : '/' ∉ "Log-In".toList := by decide
  have hentry := h.file_entry
  rw [hnames.mpr hslash, hhere, scriptName] at hentry
  exact ⟨script, by rw [← hfile]; exact hentry⟩

/-- A name that begins with two points leads out of the output directory, in which no file is
written. -/
theorem not_in_directory_above :
    let arguments := ["flow.json", "--out", "out", "--name", "../x"]
    let left := (run {} startOnly arguments).1
    (run {} startOnly arguments).2.ending = .exit 0 ∧
      Folder.place left (Path.ofString "out") = .ok ["out"] ∧
      (∃ script : String, Folder.entryAt? startOnly ["x.py"] = none ∧
        Folder.entryAt? left ["x.py"] = some (.file (Text.Utf8.encode script.toList))) ∧
      ∀ name bytes, Folder.entryAt? left ["out", name] ≠ some (.file bytes) := by
  intro arguments left
  have hparse : parse arguments =
      .ok { document := "flow.json", out := some "out", name := some "../x" } := by decide +kernel
  have hending : (run {} startOnly arguments).2.ending = .exit 0 := by
    refine ending_startOnly ["x.py"] hparse rfl rfl rfl rfl ?_ ?_
    · decide +kernel
    · decide +kernel
  obtain ⟨out, script, here, names, hout, -, h⟩ := exists_written hparse hending rfl
  obtain rfl := Option.some.inj hout
  have hdirectory : Path.ofString "out" = ⟨"", ["out"]⟩ := by decide +kernel
  have hfile : Options.file { document := "flow.json", out := some "out", name := some "../x" }
      ⟨"", ["out"]⟩ = ⟨"", ["out", "..", "x.py"]⟩ := by decide +kernel
  obtain ⟨hdirectoryPlace, -, hfilePlace, hentry, hkeeps⟩ := h
  rw [hdirectory] at hdirectoryPlace hfilePlace
  rw [hfile, Folder.place_eq_ok_iff] at hfilePlace
  have hhere : here = ["out"] :=
    Folder.eq_append_of_locate (by decide) (Folder.place_eq_ok_iff.mp hdirectoryPlace).2
  -- into the directory, back out of it, and to the file
  obtain ⟨-, inside, -, hinside, hback⟩ := Folder.exists_of_locate_cons hfilePlace.2
  obtain rfl : inside = ["out"] := Except.ok.inj (hinside.symm.trans (by decide +kernel))
  obtain ⟨-, outside, -, houtside, hlast⟩ := Folder.exists_of_locate_cons hback
  obtain rfl : outside = [] := Except.ok.inj (houtside.symm.trans (by decide +kernel))
  obtain rfl : names = ["x.py"] := Folder.eq_append_of_locate (by decide) hlast
  refine ⟨hending, ?_, ⟨script, by decide +kernel, hentry⟩, fun name bytes hname => ?_⟩
  · rw [hdirectory, hdirectoryPlace, hhere]
  · rw [hkeeps.file_iff (show ["out", name] ∉ _ by simp), Folder.entryAt?_eq_file_iff] at hname
    cases hname

end BrowserFlow.Command
