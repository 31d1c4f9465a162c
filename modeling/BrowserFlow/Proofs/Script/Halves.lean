import BrowserFlow.Proofs.Script.Sections

/-!
# Halves in scripts

The fixed lines of a script have no halves of pairs, so a script has some just if a step of
it writes some (`isWhole_assemble_iff`).
-/

namespace BrowserFlow

namespace Text

theorem isWhole_flatMap {α : Type} (f : α → List Char) (l : List α) :
    isWhole (l.flatMap f) = l.all fun a => isWhole (f a) := by
  simp [isWhole, List.all_flatMap]

theorem isWhole_append (cs others : List Char) :
    isWhole (cs ++ others) = (isWhole cs && isWhole others) := List.all_append

theorem isWhole_endLines (lines : List (List Char)) :
    isWhole (endLines lines) = lines.all isWhole := by
  rw [endLines, isWhole_flatMap]
  congr 1
  funext line
  have hend : isWhole ['\n'] = true := by decide
  rw [isWhole_append, hend, Bool.and_true]

end Text

namespace Script

theorem exists_large_byte {c : Char} (h : 127 < c.toNat) :
    ∃ b ∈ String.utf8EncodeChar c, 128 ≤ b.toNat := by
  have hlarge : 128 ≤ (UInt8.ofNat (c.toNat % 64 + 128)).toNat := by
    rw [UInt8.toNat_ofNat_of_lt' (by change _ < 256; omega)]
    omega
  -- the last byte holds the low six bits
  refine ⟨_, ?_, hlarge⟩
  simp only [String.utf8EncodeChar, Char.toNat] at h ⊢
  rw [if_neg (by omega)]
  split
  · simp
  · split <;> simp

def isAscii (text : String) : Bool := text.toByteArray.data.toList.all fun b => b.toNat.blt 128

theorem isWhole_of_isAscii {text : String} (h : isAscii text = true) :
    Text.isWhole text.toList = true := by
  rw [isAscii, List.all_eq_true] at h
  rw [Text.isWhole, List.all_eq_true]
  intro c hc
  rcases Nat.lt_or_ge 127 c.toNat with hlarge | hsmall
  · obtain ⟨b, hb, hle⟩ := exists_large_byte hlarge
    have hlt := h b (mem_bytes_of_mem hc hb)
    rw [Nat.blt_eq] at hlt
    exact absurd hlt (Nat.not_lt.mpr hle)
  · rw [Text.half?, if_neg (by omega)]
    rfl

theorem isWhole_fixed : ∀ line ∈ preamble ++ epilogue, Text.isWhole line.toList = true := by
  have hall : (preamble ++ epilogue).all isAscii = true := by decide +kernel
  exact fun line hline => isWhole_of_isAscii (List.all_eq_true.mp hall line hline)

theorem isWhole_toggledLine_false : Text.isWhole (toggledLine false).toList = true := by
  have hline := isWhole_fixed (toggledLine true) (by simp [preamble_eq])
  have hmark : Text.isWhole "# ".toList = true := by decide
  rw [toList_toggledLine_true, Text.isWhole_append, Bool.and_eq_true] at hline
  rw [toList_toggledLine_false, disabledDirective, String.toList_append, Text.isWhole_append,
    Text.isWhole_append, hmark, hline.1, hline.2]
  rfl

theorem isWhole_outdent {nodes : List Node} {line : String} (h : line ∈ body nodes) :
    Text.isWhole (outdent line ++ "\n").toList = Text.isWhole line.toList := by
  have hblanks : Text.isWhole "        ".toList = true := by decide
  have hend : Text.isWhole "\n".toList = true := by decide
  rcases eq_of_mem_body h with rfl | ⟨-, heq⟩
  · rfl
  · conv => rhs; rw [heq]
    rw [String.toList_append, String.toList_append, Text.isWhole_append, Text.isWhole_append,
      hblanks, hend, Bool.and_true, Bool.true_and]

/-- A script has halves just if a step of it writes some. -/
theorem isWhole_assemble_iff {nodes : List Node} {headless : Bool} :
    Text.isWhole (assemble nodes headless).toList = true ↔
      ∀ node ∈ nodes, Text.isWhole node.fragment.toList = true := by
  have hfixed := isWhole_fixed
  rw [preamble_eq] at hfixed
  simp only [List.mem_append, List.mem_cons] at hfixed
  have htoggled : Text.isWhole (toggledLine headless).toList = true := by
    cases headless with
    | true => exact hfixed _ (.inl (.inr (.inl rfl)))
    | false => exact isWhole_toggledLine_false
  have hsections : (∀ line ∈ sections nodes headless, Text.isWhole line.toList = true) ↔
      ∀ line ∈ body nodes, Text.isWhole line.toList = true := by
    simp only [sections, List.mem_append, List.mem_cons]
    constructor
    · exact fun h line hline => h line (.inr (.inr (.inl (.inr hline))))
    · rintro h line (hline | rfl | (hline | hline) | hline)
      · exact hfixed line (.inl (.inl hline))
      · exact htoggled
      · exact hfixed line (.inl (.inr (.inr hline)))
      · exact h line hline
      · exact hfixed line (.inr hline)
  have hjoined := congrArg (fun text => Text.isWhole text.toList) (join_body nodes)
  simp only [String.toList_join, List.flatMap_map, Text.isWhole_flatMap] at hjoined
  calc
    Text.isWhole (assemble nodes headless).toList = true
      ↔ ∀ line ∈ sections nodes headless, Text.isWhole line.toList = true := by
        rw [toList_assemble, Text.isWhole_endLines, List.all_map, List.all_eq_true]
        rfl
    _ ↔ ∀ line ∈ body nodes, Text.isWhole (outdent line ++ "\n").toList = true := by
        rw [hsections]
        exact forall₂_congr fun line hline => by rw [isWhole_outdent hline]
    _ ↔ ∀ node ∈ nodes, Text.isWhole node.fragment.toList = true := by
        rw [← List.all_eq_true, hjoined, List.all_eq_true]

end Script
end BrowserFlow
