import BrowserFlow.Proofs.Text.Lines
import BrowserFlow.Script.Compile
import Mathlib.Data.List.Basic

/-!
# Statements of the user's own

Own statements are cut at every line boundary and written as lines. Line boundaries are
more than newlines, so what is written is the text with each boundary made a newline,
`plainBoundaries`, and with a newline put at its end if there is none, `ended`
(`endLines_boundaryLines`). No other boundary is left in it, which is why own statements
are written as they stand just if they have none but newlines
(`write_ownStatements`).
-/

namespace BrowserFlow

namespace Text

/-- Writes each line boundary as a newline, a carriage return with the newline after it
being one. -/
def plainBoundaries : List Char → List Char
  | [] => []
  | '\r' :: '\n' :: cs => '\n' :: plainBoundaries cs
  | c :: cs => (if isBoundary c then '\n' else c) :: plainBoundaries cs

def ended (cs : List Char) : List Char := if cs.getLast? = some '\n' then cs else cs ++ ['\n']

section Ending

theorem ended_of_notMem {cs : List Char} (h : '\n' ∉ cs) : ended cs = cs ++ ['\n'] :=
  if_neg fun hlast => h (List.mem_of_getLast? hlast)

theorem ended_append (front : List Char) {back : List Char} (h : back ≠ []) :
    ended (front ++ back) = front ++ ended back := by
  rw [ended, ended, List.getLast?_append_of_ne_nil _ h]
  split
  · rfl
  · exact List.append_assoc _ _ _

theorem mem_ended_iff {cs : List Char} {c : Char} (h : c ≠ '\n') : c ∈ ended cs ↔ c ∈ cs := by
  rw [ended]
  split
  · rfl
  · simp [h]

end Ending

section Boundaries

theorem plainBoundaries_ne_nil {cs : List Char} (h : cs ≠ []) : plainBoundaries cs ≠ [] := by
  fun_cases plainBoundaries cs with
  | case1 => exact absurd rfl h
  | case2 cs => exact List.cons_ne_nil _ _
  | case3 c cs => exact List.cons_ne_nil _ _

theorem plainBoundaries_cons {c : Char} {cs : List Char}
    (hpair : ∀ rest, c = '\r' → cs ≠ '\n' :: rest) :
    plainBoundaries (c :: cs) = (if isBoundary c then '\n' else c) :: plainBoundaries cs := by
  rw [plainBoundaries]
  exact fun rest hc hcs => hpair rest hc hcs

/-- A line is ended by the boundary behind it. -/
theorem ended_append_boundary {line cs : List Char}
    (ih : cs ≠ [] → endLines (boundaryLinesFrom [] cs) = ended (plainBoundaries cs)) :
    endLines (line :: boundaryLinesFrom [] cs) = ended (line ++ '\n' :: plainBoundaries cs) := by
  rw [endLines_cons, ended_append line (List.cons_ne_nil _ _)]
  by_cases hcs : cs = []
  · rw [hcs]
    rfl
  · rw [ih hcs]
    exact congrArg (line ++ ·) (ended_append ['\n'] (plainBoundaries_ne_nil hcs)).symm

/-- The lines of a text, the first of them begun before, are ended again by what the text
has with plain boundaries. -/
theorem endLines_boundaryLinesFrom {line cs : List Char} (hline : '\n' ∉ line)
    (h : line ≠ [] ∨ cs ≠ []) :
    endLines (boundaryLinesFrom line cs) = ended (line.reverse ++ plainBoundaries cs) := by
  fun_induction boundaryLinesFrom line cs with
  | case1 => simp at h
  | case2 line =>
      have hreverse : '\n' ∉ line.reverse := mt List.mem_reverse.mp hline
      rw [plainBoundaries, List.append_nil, ended_of_notMem hreverse, endLines_cons, endLines_nil]
  | case3 line cs ih =>
      apply ended_append_boundary
      exact fun hcs => ih List.not_mem_nil (Or.inr hcs)
  | case4 line c cs hpair hc ih =>
      rw [plainBoundaries_cons fun rest h => hpair rest h, if_pos hc]
      apply ended_append_boundary
      exact fun hcs => ih List.not_mem_nil (Or.inr hcs)
  | case5 line c cs hpair hc ih =>
      have hnew : '\n' ∉ c :: line := by
        intro hmem
        rcases List.mem_cons.mp hmem with rfl | hmem
        · exact hc rfl
        · exact hline hmem
      rw [plainBoundaries_cons fun rest h => hpair rest h, if_neg hc,
        ih hnew (Or.inl (List.cons_ne_nil _ _)), List.reverse_cons, List.append_assoc,
        List.singleton_append]

theorem endLines_boundaryLines {cs : List Char} (h : cs ≠ []) :
    endLines (boundaryLines cs) = ended (plainBoundaries cs) :=
  endLines_boundaryLinesFrom List.not_mem_nil (Or.inr h)

theorem boundaryLines_ne_nil {cs : List Char} (h : cs ≠ []) : boundaryLines cs ≠ [] := by
  intro hnil
  have hended := endLines_boundaryLines h
  rw [hnil, ended] at hended
  split at hended
  · exact plainBoundaries_ne_nil h hended.symm
  · exact List.append_ne_nil_of_right_ne_nil _ (List.cons_ne_nil _ _) hended.symm

theorem eq_newline_of_mem_plainBoundaries {cs : List Char} {c : Char}
    (hmem : c ∈ plainBoundaries cs) (h : isBoundary c = true) : c = '\n' := by
  fun_induction plainBoundaries cs with
  | case1 => exact absurd hmem List.not_mem_nil
  | case2 cs ih =>
      rcases List.mem_cons.mp hmem with rfl | hmem
      · rfl
      · exact ih hmem
  | case3 d cs _ ih =>
      rcases List.mem_cons.mp hmem with hhead | hmem
      · split at hhead
        · exact hhead
        · exact absurd (hhead ▸ h) ‹_›
      · exact ih hmem

theorem plainBoundaries_eq_self {cs : List Char}
    (h : ∀ c ∈ cs, isBoundary c = true → c = '\n') : plainBoundaries cs = cs := by
  fun_induction plainBoundaries cs with
  | case1 => rfl
  | case2 cs ih => exact absurd (h '\r' List.mem_cons_self rfl) (by decide)
  | case3 c cs _ ih =>
      rw [List.forall_mem_cons] at h
      rw [ih h.2]
      split
      · rw [h.1 ‹_›]
      · rfl

/-- Ending the lines of a text gives the text, ended, just if it has no boundaries but
newlines. -/
theorem ended_plainBoundaries_eq_iff {cs : List Char} :
    ended (plainBoundaries cs) = ended cs ↔ ∀ c ∈ cs, isBoundary c = true → c = '\n' := by
  constructor
  · intro heq c hmem hboundary
    by_contra hc
    -- another boundary would be found in the ended text, where none is left
    have hkept : c ∈ ended cs := (mem_ended_iff hc).mpr hmem
    rw [← heq, mem_ended_iff hc] at hkept
    exact hc (eq_newline_of_mem_plainBoundaries hkept hboundary)
  · intro h
    rw [plainBoundaries_eq_self h]

end Boundaries

end Text

namespace Script

theorem indent_zero (text : String) : indent 0 text = text := by
  rw [indent]
  split
  · rename_i h
    exact (String.isEmpty_iff.mp h).symm
  · exact String.empty_append

theorem ownStatements_text {text : String} (h : text ≠ "") :
    ownStatements (.text text) =
      ((Text.boundaryLines text.toList).map String.ofList).map Writing.line := by
  rw [ownStatements, List.map_map]
  split
  · rename_i heq
    cases heq
  · rename_i heq
    exact absurd (Option.some.inj heq) h
  · rename_i heq
    rw [Option.some.inj heq]
    rfl

end Script

namespace Node

open Text

theorem toList_fragment_ownStatements {node : Node} {text : String} (hkind : node.kind = .code)
    (htext : node.params.get .code = .text text) (hne : text ≠ "") :
    node.fragment.toList = ended (plainBoundaries text.toList) := by
  have hcs : text.toList ≠ [] := mt String.toList_eq_nil_iff.mp hne
  have hlines : node.fragmentLines = (boundaryLines text.toList).map String.ofList := by
    rw [fragmentLines, hkind, Script.statements, htext, Script.ownStatements_text hne,
      Script.layOut_map_line]
    simp [Script.indent_zero]
  have htexts : node.fragmentLines.map String.toList = boundaryLines text.toList := by
    simp [hlines, Function.comp_def]
  rw [fragment, String.toList_append, Script.unlines, String.toList_ofList, htexts,
    ← endLines_boundaryLines hcs, endLines_eq_joinLines (boundaryLines_ne_nil hcs)]
  rfl

/-- Own statements are always written, as the text with its boundaries made newlines and a
newline at its end. That is the text itself, with a newline put at its end if it has none,
just if it has no line boundaries but newlines. -/
theorem write_ownStatements {node : Node} {text : String} (hkind : node.kind = .code)
    (htext : node.params.get .code = .text text) (hne : text ≠ "") :
    ∃ written, node.write.result = .ok written ∧
      written.toList = ended (plainBoundaries text.toList) ∧
      (written.toList = ended text.toList ↔
        ∀ c ∈ text.toList, isBoundary c = true → c = '\n') := by
  have hwritten := toList_fragment_ownStatements hkind htext hne
  have hfault : node.faultWithin? {} = none := fault?_eq_none (by rw [htext]; rfl)
  refine ⟨node.fragment, ?_, hwritten, ?_⟩
  · simp [write, writeWithin, hfault, Except.bind]
  · rw [hwritten]
    exact ended_plainBoundaries_eq_iff

/-- Two lines, the second of them not ended. -/
theorem write_ownStatements_lines :
    let node : Node := { id := "k", kind := .code, params := .code (.text "x = 1\nprint(x)") }
    (∀ c ∈ "x = 1\nprint(x)".toList, isBoundary c = true → c = '\n') ∧
      ∃ written, node.write.result = .ok written ∧ written.toList = "x = 1\nprint(x)\n".toList := by
  intro node
  have hplain : ∀ c ∈ "x = 1\nprint(x)".toList, isBoundary c = true → c = '\n' := by
    simp [isBoundary]
  obtain ⟨written, hresult, -, hverbatim⟩ :=
    @write_ownStatements node "x = 1\nprint(x)" rfl rfl (by decide)
  exact ⟨hplain, written, hresult, hverbatim.mpr hplain⟩

/-- A line separator in a literal cuts it in two: the step is not written as it stands. -/
theorem not_written_verbatim_separator :
    let text := "print('a\u2028b')"
    let node : Node := { id := "k", kind := .code, params := .code (.text text) }
    node.write.result = .ok "print('a\nb')\n" ∧ "print('a\nb')\n".toList ≠ ended text.toList := by
  decide

end Node

end BrowserFlow
