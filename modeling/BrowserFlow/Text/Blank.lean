import BrowserFlow.Text.Ranges

/-!
# Blank characters

White space of all scripts, and two operations that depend on it: cutting it off
both ends of a text, and replacing each stretch of it by one hyphen.
-/

namespace BrowserFlow.Text

/-- The white space of the Unicode standard together with the four information
separators. -/
def blankRanges : List (Nat × Nat) := [
    (9, 13), (28, 32), (133, 133), (160, 160), (5760, 5760), (8192, 8202), (8232, 8233),
    (8239, 8239), (8287, 8287), (12288, 12288)]

def isBlank (c : Char) : Bool := inRanges blankRanges c

def trimBoth (p : Char → Bool) (cs : List Char) : List Char :=
  ((cs.dropWhile p).reverse.dropWhile p).reverse

def stripBlanks (cs : List Char) : List Char := trimBoth isBlank cs

def allBlank (cs : List Char) : Bool := cs.all isBlank

/-- Replaces each longest stretch of characters that satisfy `p` by one `mark`.
`inside` tells whether the character before belongs to a stretch. -/
def squeezeFrom (p : Char → Bool) (mark : Char) : Bool → List Char → List Char
  | _, [] => []
  | inside, c :: cs =>
    if p c then
      if inside then squeezeFrom p mark true cs else mark :: squeezeFrom p mark true cs
    else c :: squeezeFrom p mark false cs

/-- Replaces each longest stretch of characters that satisfy `p` by one `mark`. -/
def squeeze (p : Char → Bool) (mark : Char) (cs : List Char) : List Char :=
  squeezeFrom p mark false cs

def hyphenateBlanks (cs : List Char) : List Char := squeeze isBlank '-' cs

end BrowserFlow.Text
