import BrowserFlow.Proofs.Script.Faults
import BrowserFlow.Proofs.Text.Lines
import BrowserFlow.Script.Compile

/-!
# The sections of a script

A script is cut at newlines into the lines of its preamble, the lines of its steps
and the lines of its epilogue (`lines_assemble`). Only the line of the headless
directive depends on the toggle: no line in front of it holds the directive, so the
first occurrence is that line, whatever texts the steps carry.
`written_differs_at_directive` compares the scripts of both toggles, and
`written_keeps_fragments` says where the lines of the steps stand and that they are
what the steps write. Where a step cannot be written, both say that there is no script.
-/

namespace BrowserFlow.Script

section Lines

theorem mem_bytes_of_mem {c : Char} {text : String} (h : c ∈ text.toList) {b : UInt8}
    (hb : b ∈ String.utf8EncodeChar c) : b ∈ text.toByteArray.data.toList := by
  obtain ⟨front, rest, htext⟩ := List.append_of_mem h
  have hbytes : text.toByteArray = (front ++ c :: rest).utf8Encode := by
    rw [← htext, ← String.toByteArray_ofList, String.ofList_toList]
  simp only [hbytes, List.utf8Encode]
  simp [hb]

theorem notMem_toList_of_bytes {c : Char} (hc : c.utf8Size = 1) {text : String}
    (h : c.val.toUInt8 ∉ text.toByteArray.data.toList) : c ∉ text.toList := by
  intro hmem
  apply h
  apply mem_bytes_of_mem hmem
  rw [String.utf8EncodeChar_eq_singleton hc]
  exact List.mem_singleton_self _

theorem toList_unlines_append {texts : List String} (h : texts ≠ []) :
    (unlines texts ++ "\n").toList = Text.endLines (texts.map String.toList) := by
  have hne : texts.map String.toList ≠ [] := mt List.map_eq_nil_iff.1 h
  rw [Text.endLines_eq_joinLines hne, String.toList_append, unlines, String.toList_ofList]
  rfl

/-- A text of ended lines is cut into them, with an empty line behind the last. -/
theorem lines_of_toList_eq {text : String} {texts : List String}
    (htext : text.toList = Text.endLines (texts.map String.toList))
    (h : ∀ line ∈ texts, '\n' ∉ line.toList) : lines text = texts ++ [""] := by
  have hlines : ∀ line ∈ texts.map String.toList, '\n' ∉ line := by simpa using h
  have hcut := Text.splitLines_endLines hlines []
  rw [List.append_nil] at hcut
  rw [lines, htext, hcut]
  simp [Text.splitLines]

theorem toList_indent {text : String} (h : text ≠ "") :
    (indent bodyDepth text).toList = List.replicate 8 ' ' ++ text.toList := by
  simp [indent, h, indentation, bodyDepth]

end Lines

section Body

variable (nodes others : List Node)

theorem body_cons (node : Node) :
    body (node :: nodes) =
      (lines (unlines node.fragmentLines)).map (indent bodyDepth) ++ body nodes := rfl

theorem body_append : body (nodes ++ others) = body nodes ++ body others :=
  List.flatMap_append

def outdent (line : String) : String := String.ofList (line.toList.drop 8)

theorem outdent_indent (text : String) : outdent (indent bodyDepth text) = text := by
  by_cases h : text = ""
  · rw [h]
    rfl
  · rw [outdent, toList_indent h, List.drop_left' List.length_replicate, String.ofList_toList]

variable {nodes}

theorem exists_indent_of_mem_body {line : String} (h : line ∈ body nodes) :
    ∃ text, '\n' ∉ text.toList ∧ line = indent bodyDepth text := by
  obtain ⟨node, -, hnode⟩ := List.mem_flatMap.1 h
  obtain ⟨text, htext, rfl⟩ := List.mem_map.1 hnode
  obtain ⟨cs, hcs, rfl⟩ := List.mem_map.1 htext
  exact ⟨_, by simpa using Text.notMem_of_mem_splitLines hcs, rfl⟩

/-- A line of the steps is empty or stands at their depth. -/
theorem eq_of_mem_body {line : String} (h : line ∈ body nodes) :
    line = "" ∨ outdent line ≠ "" ∧ line = "        " ++ outdent line := by
  obtain ⟨text, -, rfl⟩ := exists_indent_of_mem_body h
  rw [outdent_indent]
  by_cases htext : text = ""
  · exact .inl (by rw [htext]; rfl)
  · refine .inr ⟨htext, String.toList_inj.1 ?_⟩
    rw [toList_indent htext, String.toList_append]
    rfl

theorem notMem_of_mem_body {line : String} (h : line ∈ body nodes) : '\n' ∉ line.toList := by
  obtain ⟨text, htext, rfl⟩ := exists_indent_of_mem_body h
  by_cases hempty : text = ""
  · rw [hempty]
    exact List.not_mem_nil
  · simp [toList_indent hempty, htext]

theorem join_lines_fragment (node : Node) :
    String.join ((lines (unlines node.fragmentLines)).map (· ++ "\n")) = node.fragment := by
  have hne := Text.splitLines_ne_nil (unlines node.fragmentLines).toList
  have hended := Text.endLines_eq_joinLines hne
  rw [Text.joinLines_splitLines] at hended
  apply String.toList_inj.1
  rw [Node.fragment, String.toList_append, String.toList_join, lines, List.map_map,
    List.flatMap_map]
  simpa [Text.endLines] using hended

/-- Without their indentation the lines of the steps are the fragments. -/
theorem join_body (nodes : List Node) :
    String.join ((body nodes).map fun line => outdent line ++ "\n") =
      String.join (nodes.map Node.fragment) := by
  induction nodes with
  | nil => rfl
  | cons node nodes ih =>
      have hnode : ((lines (unlines node.fragmentLines)).map (indent bodyDepth)).map
          (fun line => outdent line ++ "\n") =
            (lines (unlines node.fragmentLines)).map (· ++ "\n") := by
        simp [List.map_map, Function.comp_def, outdent_indent]
      rw [body_cons, List.map_append, hnode, String.join_append, join_lines_fragment, ih,
        List.map_cons, String.join_cons]

end Body

section Toggle

def opening : List String := preamble.take 17

def browserSetUp : List String := preamble.drop 18

def toggledLine (headless : Bool) : String :=
  indent bodyDepth (if headless then headlessDirective else disabledDirective)

def sections (nodes : List Node) (headless : Bool) : List String :=
  opening ++ toggledLine headless :: (browserSetUp ++ body nodes ++ epilogue)

theorem preamble_eq : preamble = opening ++ toggledLine true :: browserSetUp :=
  rfl

theorem notMem_fixed : ∀ line ∈ preamble ++ epilogue, '\n' ∉ line.toList := by
  have hbytes : ∀ line ∈ preamble ++ epilogue, '\n'.val.toUInt8 ∉ line.toByteArray.data.toList := by
    decide +kernel
  exact fun line hline => notMem_toList_of_bytes (by decide) (hbytes line hline)

/-- No line in front of the directive has a hyphen, so none holds the directive. -/
theorem not_infix_opening : ∀ line ∈ opening, ¬ headlessDirective.toList <:+: line.toList := by
  have hbytes : ∀ line ∈ opening, '-'.val.toUInt8 ∉ line.toByteArray.data.toList := by
    decide +kernel
  have hhyphen : '-' ∈ headlessDirective.toList := by decide +kernel
  intro line hline hwithin
  exact notMem_toList_of_bytes (by decide) (hbytes line hline) (hwithin.subset hhyphen)

theorem toList_toggledLine_true :
    (toggledLine true).toList = List.replicate 8 ' ' ++ headlessDirective.toList :=
  toList_indent (by decide)

theorem toList_toggledLine_false :
    (toggledLine false).toList = List.replicate 8 ' ' ++ disabledDirective.toList :=
  toList_indent (by decide)

theorem toggledLine_ne : toggledLine true ≠ toggledLine false := by decide

theorem notMem_directive : '\n' ∉ headlessDirective.toList := by
  have hline := notMem_fixed (toggledLine true) (by simp [preamble_eq])
  rw [toList_toggledLine_true] at hline
  exact fun hmem => hline (List.mem_append_right _ hmem)

theorem notMem_toggledLine_false : '\n' ∉ (toggledLine false).toList := by
  rw [toList_toggledLine_false, disabledDirective, String.toList_append]
  simp [notMem_directive]

/-- Turning the directive into a comment changes its line and no other. -/
theorem toList_applyHeadless {script : String} {rest : List String}
    (h : script.toList =
      Text.endLines ((opening ++ toggledLine true :: rest).map String.toList)) :
    (applyHeadless false script).toList =
      Text.endLines ((opening ++ toggledLine false :: rest).map String.toList) := by
  have hopening : ∀ line ∈ opening.map String.toList, ¬ headlessDirective.toList <:+: line := by
    simpa using not_infix_opening
  -- Within its own line the directive cannot begin earlier: only blanks are in front of it.
  obtain ⟨tail, htail⟩ : ∃ tail, headlessDirective.toList = 'o' :: tail :=
    ⟨headlessDirective.toList.tail, rfl⟩
  have hindent : 'o' ∉ List.replicate 8 ' ' := by decide
  rw [applyHeadless, if_neg (by decide), String.toList_ofList, h, List.map_append,
    Text.endLines_append, Text.replaceFirst_endLines notMem_directive hopening, List.map_cons,
    Text.endLines_cons, toList_toggledLine_true, List.append_assoc, htail,
    Text.replaceFirst_front hindent]
  simp [toList_toggledLine_false]

theorem toList_assemble (nodes : List Node) (headless : Bool) :
    (assemble nodes headless).toList =
      Text.endLines ((sections nodes headless).map String.toList) := by
  have hlines : preamble ++ body nodes ++ epilogue = sections nodes true := by
    simp [preamble_eq, sections]
  have hne : sections nodes true ≠ [] := by simp [sections]
  have hon := toList_unlines_append hne
  rw [assemble, hlines]
  cases headless with
  | true => exact hon
  | false => exact toList_applyHeadless hon

theorem notMem_of_mem_sections {nodes : List Node} {headless : Bool} {line : String}
    (h : line ∈ sections nodes headless) : '\n' ∉ line.toList := by
  have hfixed := notMem_fixed
  rw [preamble_eq] at hfixed
  simp only [List.mem_append, List.mem_cons] at hfixed
  simp only [sections, List.mem_append, List.mem_cons] at h
  rcases h with hline | rfl | (hline | hline) | hline
  · exact hfixed line (by simp [hline])
  · cases headless with
    | true => exact hfixed _ (by simp)
    | false => exact notMem_toggledLine_false
  · exact hfixed line (by simp [hline])
  · exact notMem_of_mem_body hline
  · exact hfixed line (by simp [hline])

/-- A script is cut into its sections, and nothing stands behind its last newline. -/
theorem lines_assemble (nodes : List Node) (headless : Bool) :
    lines (assemble nodes headless) = sections nodes headless ++ [""] :=
  lines_of_toList_eq (toList_assemble nodes headless) fun _ => notMem_of_mem_sections

end Toggle

section Written

/-- Two lists with different items at one place agree at all other places only. -/
theorem getElem?_append_cons_eq_iff {α : Type} {a b : α} (h : a ≠ b) (front rest : List α)
    (i : Nat) : (front ++ a :: rest)[i]? = (front ++ b :: rest)[i]? ↔ i ≠ front.length := by
  rcases Nat.lt_trichotomy i front.length with hlt | rfl | hgt
  · simp [List.getElem?_append_left hlt, Nat.ne_of_lt hlt]
  · simpa using h
  · obtain ⟨j, hj⟩ := Nat.exists_eq_add_of_lt hgt
    rw [hj, Nat.add_assoc, List.getElem?_append_right (Nat.le_add_right _ _),
      List.getElem?_append_right (Nat.le_add_right _ _), Nat.add_sub_cancel_left]
    simp

/-- Steps of which none has a fault give one script with a window and one without; the two
differ in one line, the line of the directive in the preamble, where one of them has a
comment. Where a step has a fault there is no script, be it with a window or without. -/
theorem written_differs_at_directive (limits : Json.Limits) (nodes : List Node) :
    match nodes.findSome? (Node.faultWithin? limits) with
    | some fault => ∀ headless, (writeWithin limits nodes headless).result = .error fault
    | none =>
      ∃ on off, (writeWithin limits nodes true).result = .ok on ∧
        (writeWithin limits nodes false).result = .ok off ∧
        (lines on).length = (lines off).length ∧
        ∃ place : Nat, preamble[place]? = some ("        " ++ headlessDirective) ∧
          (lines on)[place]? = some ("        " ++ headlessDirective) ∧
          (lines off)[place]? = some ("        # " ++ headlessDirective) ∧
          ∀ i, (lines on)[i]? = (lines off)[i]? ↔ i ≠ place := by
  have hresult := result_writeWithin limits nodes
  have hlines (headless : Bool) : lines (assemble nodes headless) =
      opening ++ toggledLine headless :: (browserSetUp ++ body nodes ++ epilogue ++ [""]) := by
    simp [lines_assemble, sections]
  have hplace (line : String) (rest : List String) :
      (opening ++ line :: rest)[opening.length]? = some line := by simp
  cases hfault : nodes.findSome? (Node.faultWithin? limits) with
  | some fault => simpa only [hfault] using hresult
  | none =>
      simp only [hfault] at hresult
      refine ⟨assemble nodes true, assemble nodes false, hresult true, hresult false, ?_,
        opening.length, ?_, ?_, ?_, fun i => ?_⟩
      · simp [hlines]
      · rw [preamble_eq, hplace]
        rfl
      · rw [hlines, hplace]
        rfl
      · rw [hlines, hplace]
        rfl
      · rw [hlines, hlines]
        exact getElem?_append_cons_eq_iff toggledLine_ne opening _ i

/-- A pause with more digits than can be written, in a step with proper parameters, leaves no
script either way. -/
theorem not_differs_long_pause :
    (∀ field : Field, field.accepts ((longPause 4300).params.get field) = true) ∧
      ∀ headless, (writeWithin .standard [longPause 4300] headless).result =
        .error (.beyond (.written 4300)) := by
  refine ⟨accepts_longPause 4300, fun headless => ?_⟩
  rw [result_writeWithin, List.findSome?_cons, faultWithin?_longPause rfl]

/-- The lines in which the steps and what belongs to them stand: empty ones, and
those at the depth of the steps or deeper. -/
def IsInside (line : String) : Prop := line = "" ∨ List.replicate 8 ' ' <+: line.toList

theorem isInside_indent (text : String) : IsInside (indent bodyDepth text) := by
  by_cases h : text = ""
  · exact .inl (by rw [h]; rfl)
  · refine .inr ?_
    rw [toList_indent h]
    exact List.prefix_append _ _

/-- The guarded block opens in the preamble and is closed in the epilogue, which
releases the browser. -/
theorem exists_guard :
    ∃ front setUp report failure closing,
      preamble = front ++ "    try:" :: setUp ∧
      epilogue = report ++ "    except Exception as error:" :: failure ++
        ["    finally:", "        # Cleanup", "        if driver is not None:",
          "            driver.quit()"] ++ closing ∧
      ∀ line ∈ setUp ++ report ++ failure, IsInside line := by
  refine ⟨preamble.take 14, preamble.drop 15, epilogue.take 5, (epilogue.drop 6).take 2,
    epilogue.drop 12, rfl, rfl, ?_⟩
  obtain ⟨texts, htexts⟩ : ∃ texts : List String,
      preamble.drop 15 ++ epilogue.take 5 ++ (epilogue.drop 6).take 2 =
        texts.map (indent bodyDepth) :=
    ⟨[_, _, _, _, _, _, _, _, _, _, _, _, _, _, _, _, _, _], rfl⟩
  intro line hline
  rw [htexts] at hline
  obtain ⟨text, -, rfl⟩ := List.mem_map.1 hline
  exact isInside_indent text

/-- The lines of a script are those of the preamble, of the steps and of the epilogue.
The lines of the steps stand at their depth inside the guarded block and are, without
it, the fragments in order; more steps add their lines behind. Where a step has a fault there
are neither a script nor all the fragments. -/
theorem written_keeps_fragments (limits : Json.Limits) (nodes : List Node) :
    match nodes.findSome? (Node.faultWithin? limits) with
    | some fault =>
      (writeWithin limits nodes true).result = .error fault ∧
        (Node.writeAllWithin limits nodes).result = .error fault
    | none =>
      ∃ script fragments, (writeWithin limits nodes true).result = .ok script ∧
        (Node.writeAllWithin limits nodes).result = .ok fragments ∧
        lines script = preamble ++ body nodes ++ epilogue ++ [""] ∧
        (∀ line ∈ body nodes,
          line = "" ∨ outdent line ≠ "" ∧ line = "        " ++ outdent line) ∧
        String.join ((body nodes).map fun line => outdent line ++ "\n") = String.join fragments ∧
        (∀ others, body (nodes ++ others) = body nodes ++ body others) ∧
        ∃ front setUp report failure closing,
          preamble = front ++ "    try:" :: setUp ∧
          epilogue = report ++ "    except Exception as error:" :: failure ++
            ["    finally:", "        # Cleanup", "        if driver is not None:",
              "            driver.quit()"] ++ closing ∧
          ∀ line ∈ setUp ++ body nodes ++ report ++ failure, IsInside line := by
  have hscript := result_writeWithin limits nodes true
  have hfragments := Node.result_writeAllWithin limits nodes
  cases hfault : nodes.findSome? (Node.faultWithin? limits) with
  | some fault =>
      simp only [hfault] at hscript hfragments
      exact ⟨hscript, hfragments⟩
  | none =>
      simp only [hfault] at hscript hfragments
      have hlines : lines (assemble nodes true) = preamble ++ body nodes ++ epilogue ++ [""] := by
        simp [lines_assemble, sections, preamble_eq]
      obtain ⟨front, setUp, report, failure, closing, hpreamble, hepilogue, hguard⟩ := exists_guard
      have hinside : ∀ line ∈ setUp ++ body nodes ++ report ++ failure, IsInside line := by
        intro line hline
        by_cases hbody : line ∈ body nodes
        · obtain ⟨text, -, rfl⟩ := exists_indent_of_mem_body hbody
          exact isInside_indent text
        · simp only [List.mem_append, hbody, or_false] at hline
          exact hguard line (by simpa [or_assoc] using hline)
      exact ⟨_, _, hscript, hfragments, hlines, fun line => eq_of_mem_body, join_body nodes,
        body_append nodes, front, setUp, report, failure, closing, hpreamble, hepilogue, hinside⟩

/-- Such a pause has no fragment, so the fragment of a start before it is in no script. -/
theorem not_kept_long_pause :
    let nodes : List Node := [⟨"s", .start, {}, .empty⟩, longPause 4300]
    (∀ node ∈ nodes, ∀ field : Field, field.accepts (node.params.get field) = true) ∧
      ((longPause 4300).writeWithin .standard).result = .error (.beyond (.written 4300)) ∧
      (writeWithin .standard nodes true).result = .error (.beyond (.written 4300)) := by
  intro nodes
  have hlong : (longPause 4300).faultWithin? .standard = some (.beyond (.written 4300)) :=
    faultWithin?_longPause rfl
  have hfault : nodes.findSome? (Node.faultWithin? .standard) =
      some (.beyond (.written 4300)) := by
    simp only [nodes, List.findSome?_cons, hlong]
    rfl
  refine ⟨?_, ?_, ?_⟩
  · intro node hnode field
    rcases List.mem_pair.mp hnode with rfl | rfl
    · cases field <;> rfl
    · exact accepts_longPause 4300 field
  · simp only [Node.writeWithin, hlong, Journaled.result_fail]
  · rw [result_writeWithin, hfault]

end Written

end BrowserFlow.Script
