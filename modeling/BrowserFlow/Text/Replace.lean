/-!
# Replacing the first occurrence
-/

namespace BrowserFlow.Text

/-- Replaces the first occurrence of a pattern, which is not empty. -/
def replaceFirst (pattern replacement : List Char) : List Char → List Char
  | [] => []
  | c :: cs =>
    if pattern.isPrefixOf (c :: cs) then replacement ++ (c :: cs).drop pattern.length
    else c :: replaceFirst pattern replacement cs

end BrowserFlow.Text
