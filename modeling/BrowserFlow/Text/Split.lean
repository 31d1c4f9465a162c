/-!
# Splitting texts

`splitOn` cuts a text at every occurrence of one character. There is always one
part more than there are occurrences, so the empty text has one empty part.
-/

namespace BrowserFlow.Text

def splitOn (mark : Char) : List Char → List (List Char)
  | [] => [[]]
  | c :: cs =>
    if c = mark then [] :: splitOn mark cs
    else
      match splitOn mark cs with
      | [] => [[c]]
      | part :: others => (c :: part) :: others

theorem splitOn_ne_nil (mark : Char) (cs : List Char) : splitOn mark cs ≠ [] := by
  cases cs with
  | nil => simp [splitOn]
  | cons c cs =>
    rw [splitOn]
    split
    · simp
    · split <;> simp

end BrowserFlow.Text
