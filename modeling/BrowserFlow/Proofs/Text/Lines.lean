import BrowserFlow.Text.Lines
import BrowserFlow.Text.Replace

/-!
# Ended lines

`endLines` puts a newline behind every line. Lines without a newline in them come
back when such a text is cut (`splitLines_endLines`). A pattern without a newline
that stands in none of them is looked for behind them (`replaceFirst_endLines`), so
its first occurrence is found line by line.
-/

namespace BrowserFlow.Text

def endLines (lines : List (List Char)) : List Char := lines.flatMap (· ++ ['\n'])

@[simp] theorem endLines_nil : endLines [] = [] := rfl

@[simp] theorem endLines_cons (line : List Char) (lines : List (List Char)) :
    endLines (line :: lines) = line ++ '\n' :: endLines lines := by
  simp [endLines]

@[simp] theorem endLines_append (lines others : List (List Char)) :
    endLines (lines ++ others) = endLines lines ++ endLines others :=
  List.flatMap_append

/-- Ended lines are joined lines with one newline more. -/
theorem endLines_eq_joinLines {lines : List (List Char)} (h : lines ≠ []) :
    endLines lines = joinLines lines ++ ['\n'] := by
  induction lines with
  | nil => exact absurd rfl h
  | cons line lines ih =>
      cases lines with
      | nil => simp [joinLines]
      | cons next lines => simp [joinLines, ih (List.cons_ne_nil next lines)]

section Cutting

theorem splitLines_append {line : List Char} (h : '\n' ∉ line) (rest : List Char) :
    splitLines (line ++ '\n' :: rest) = line :: splitLines rest := by
  induction line with
  | nil => simp [splitLines]
  | cons c line ih =>
      have hc : c ≠ '\n' := fun hc => h (by simp [hc])
      have hline : '\n' ∉ line := fun hmem => h (List.mem_cons_of_mem c hmem)
      simp [splitLines, hc, ih hline, consFirst]

/-- Cutting gives ended lines back, as far as no newline stands in one. -/
theorem splitLines_endLines {lines : List (List Char)} (h : ∀ line ∈ lines, '\n' ∉ line)
    (rest : List Char) : splitLines (endLines lines ++ rest) = lines ++ splitLines rest := by
  induction lines with
  | nil => rfl
  | cons line lines ih =>
      have hlines := ih fun other hother => h other (List.mem_cons_of_mem line hother)
      rw [endLines_cons, List.append_assoc, List.cons_append,
        splitLines_append (h line List.mem_cons_self), hlines, List.cons_append]

theorem notMem_of_mem_splitLines {cs line : List Char} (h : line ∈ splitLines cs) :
    '\n' ∉ line := by
  induction cs generalizing line with
  | nil => simp_all [splitLines]
  | cons c cs ih =>
      by_cases hc : c = '\n'
      · rw [splitLines, if_pos hc] at h
        rcases List.mem_cons.1 h with rfl | hmem
        · exact List.not_mem_nil
        · exact ih hmem
      · obtain ⟨first, others, hsplit⟩ := List.exists_cons_of_ne_nil (splitLines_ne_nil cs)
        rw [splitLines, if_neg hc, hsplit, consFirst] at h
        rw [hsplit] at ih
        rcases List.mem_cons.1 h with rfl | hmem
        · have hfirst := ih List.mem_cons_self
          simp [hfirst, Ne.symm hc]
        · exact ih (List.mem_cons_of_mem first hmem)

end Cutting

section Replacing

variable {pattern line : List Char}

theorem prefix_of_prefix_append (hpattern : '\n' ∉ pattern) {rest : List Char}
    (h : pattern <+: line ++ '\n' :: rest) : pattern <+: line := by
  induction line generalizing pattern with
  | nil =>
      cases pattern with
      | nil => exact List.nil_prefix
      | cons c pattern =>
          rw [List.nil_append, List.cons_prefix_cons] at h
          exact absurd (by simp [h.1]) hpattern
  | cons d line ih =>
      cases pattern with
      | nil => exact List.nil_prefix
      | cons c pattern =>
          rw [List.cons_append, List.cons_prefix_cons] at h
          exact List.cons_prefix_cons.2
            ⟨h.1, ih (fun hmem => hpattern (List.mem_cons_of_mem c hmem)) h.2⟩

theorem replaceFirst_cons_of_absent {c : Char} {cs : List Char} (h : ¬ pattern <+: c :: cs)
    (replacement : List Char) :
    replaceFirst pattern replacement (c :: cs) = c :: replaceFirst pattern replacement cs := by
  rw [replaceFirst, if_neg (mt List.isPrefixOf_iff_prefix.1 h)]

/-- A line that the pattern does not stand in is passed over with its newline. -/
theorem replaceFirst_line (hpattern : '\n' ∉ pattern) (h : ¬ pattern <:+: line)
    (replacement rest : List Char) :
    replaceFirst pattern replacement (line ++ '\n' :: rest) =
      line ++ '\n' :: replaceFirst pattern replacement rest := by
  induction line with
  | nil =>
      exact replaceFirst_cons_of_absent
        (fun hprefix => h (prefix_of_prefix_append hpattern hprefix).isInfix) replacement
  | cons c line ih =>
      -- A pattern without newlines that begins in the line also ends in it.
      have hhere : ¬ pattern <+: c :: line ++ '\n' :: rest := fun hfront =>
        h (prefix_of_prefix_append hpattern hfront).isInfix
      have hlater : ¬ pattern <:+: line := fun hwithin => h (List.infix_cons hwithin)
      rw [List.cons_append] at hhere ⊢
      rw [replaceFirst_cons_of_absent hhere, ih hlater, List.cons_append]

theorem replaceFirst_endLines (hpattern : '\n' ∉ pattern) {lines : List (List Char)}
    (h : ∀ line ∈ lines, ¬ pattern <:+: line) (replacement rest : List Char) :
    replaceFirst pattern replacement (endLines lines ++ rest) =
      endLines lines ++ replaceFirst pattern replacement rest := by
  induction lines with
  | nil => rfl
  | cons line lines ih =>
      have hlines := ih fun other hother => h other (List.mem_cons_of_mem line hother)
      rw [endLines_cons, List.append_assoc, List.cons_append,
        replaceFirst_line hpattern (h line List.mem_cons_self), hlines, List.append_assoc,
        List.cons_append]

/-- Text in front of a pattern does not move its first occurrence when it has no
character that the pattern begins with. -/
theorem replaceFirst_front {c : Char} {front : List Char} (h : c ∉ front)
    (replacement rest : List Char) :
    replaceFirst (c :: pattern) replacement (front ++ (c :: pattern ++ rest)) =
      front ++ (replacement ++ rest) := by
  induction front with
  | nil =>
      have hprefix : c :: pattern <+: c :: (pattern ++ rest) := List.prefix_append _ rest
      simp [replaceFirst, List.isPrefixOf_iff_prefix.2 hprefix]
  | cons d front ih =>
      have hd : c ≠ d := fun hd => h (by simp [hd])
      have hfront : c ∉ front := fun hmem => h (List.mem_cons_of_mem d hmem)
      have hnot : ¬ c :: pattern <+: d :: (front ++ (c :: pattern ++ rest)) := fun hprefix =>
        hd (List.cons_prefix_cons.1 hprefix).1
      rw [List.cons_append, replaceFirst_cons_of_absent hnot, ih hfront, List.cons_append]

end Replacing

end BrowserFlow.Text
