import BrowserFlow.Text.Blank
import BrowserFlow.Text.Case
import BrowserFlow.Text.Word

/-!
# Slugs

A script is stored under a slug of its name: small letters and numbers of any
script, low lines, points, and single hyphens between them.
-/

namespace BrowserFlow.Store

/-- The slug of a name that has no character for one. -/
def defaultSlug : String := "script"

def isSlugChar (c : Char) : Bool := Text.isWord c || c == '.' || c == '-'

def isSlugEdge (c : Char) : Bool := c == '-' || c == '.'

/-- Makes a slug of a text: blanks are cut off its ends and become hyphens inside,
letters become small, all other characters are dropped, hyphens that meet become
one, and hyphens and points are cut off the ends. -/
def slugChars (cs : List Char) : List Char :=
  let small := Text.lower (Text.hyphenateBlanks (Text.stripBlanks cs))
  Text.trimBoth isSlugEdge (Text.squeeze (· == '-') '-' (small.filter isSlugChar))

def slug (name : String) : String :=
  match slugChars name.toList with
  | [] => defaultSlug
  | cs => String.ofList cs

end BrowserFlow.Store
