/-!
# Lines of text

Three views of a text as lines: cut at newlines only, cut at every line boundary
of the Unicode standard, and read with its line ends folded into newlines. The
first has an inverse, `joinLines`.
-/

namespace BrowserFlow.Text

def consFirst (c : Char) : List (List Char) → List (List Char)
  | [] => [[c]]
  | line :: lines => (c :: line) :: lines

/-- Cuts at each newline; a text without one is a single line. -/
def splitLines : List Char → List (List Char)
  | [] => [[]]
  | c :: cs => if c = '\n' then [] :: splitLines cs else consFirst c (splitLines cs)

def joinLines : List (List Char) → List Char
  | [] => []
  | [line] => line
  | line :: next :: lines => line ++ '\n' :: joinLines (next :: lines)

/-- The characters that end a line by themselves: newline, carriage return,
vertical tab, form feed, three information separators, next line, and the line
and paragraph separators. -/
def isBoundary (c : Char) : Bool :=
  c == '\n' || c == '\r' || c == '\x0b' || c == '\x0c' || c == '\x1c' || c == '\x1d' ||
    c == '\x1e' || c == '\u0085' || c == '\u2028' || c == '\u2029'

/-- Cuts at every line boundary, a carriage return with a newline after it being
one. A boundary ends a line, so none follows the last one. `line` holds the
characters of the current line, the last one first. -/
def boundaryLinesFrom : (line cs : List Char) → List (List Char)
  | [], [] => []
  | line, [] => [line.reverse]
  | line, '\r' :: '\n' :: cs => line.reverse :: boundaryLinesFrom [] cs
  | line, c :: cs =>
    if isBoundary c then line.reverse :: boundaryLinesFrom [] cs
    else boundaryLinesFrom (c :: line) cs

def boundaryLines (cs : List Char) : List (List Char) := boundaryLinesFrom [] cs

/-- Writes each carriage return, with the newline after it if there is one, as a
newline. -/
def foldLineEnds : List Char → List Char
  | [] => []
  | '\r' :: '\n' :: cs => '\n' :: foldLineEnds cs
  | c :: cs => (if c = '\r' then '\n' else c) :: foldLineEnds cs

theorem splitLines_ne_nil (cs : List Char) : splitLines cs ≠ [] := by
  cases cs with
  | nil => simp [splitLines]
  | cons c cs =>
    by_cases h : c = '\n'
    · simp [splitLines, h]
    · cases hs : splitLines cs <;> simp [splitLines, h, hs, consFirst]

theorem joinLines_consFirst (c : Char) {lines : List (List Char)} (h : lines ≠ []) :
    joinLines (consFirst c lines) = c :: joinLines lines := by
  match lines with
  | [] => exact absurd rfl h
  | [line] => rfl
  | line :: next :: rest => rfl

/-- Cutting at newlines loses nothing. -/
theorem joinLines_splitLines (cs : List Char) : joinLines (splitLines cs) = cs := by
  induction cs with
  | nil => rfl
  | cons c cs ih =>
    by_cases h : c = '\n'
    · have hne := splitLines_ne_nil cs
      cases hs : splitLines cs with
      | nil => exact absurd hs hne
      | cons line lines =>
        simp only [splitLines, h, if_true, hs, joinLines, List.nil_append]
        rw [← hs, ih]
    · simp [splitLines, h, joinLines_consFirst c (splitLines_ne_nil cs), ih]

end BrowserFlow.Text
