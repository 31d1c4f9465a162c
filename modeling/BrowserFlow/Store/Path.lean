import BrowserFlow.Text.Quoted
import BrowserFlow.Text.Split

/-!
# Paths

A path is a list of components, relative to a working directory or absolute.
Repeated slashes, components `.` and a slash at the end have no meaning and are
dropped; `..` is kept, since it only has a meaning in a given directory.
-/

namespace BrowserFlow.Store

/-- A path. `root` is empty for a relative path, one slash, or two. -/
structure Path where
  root : String
  components : List String
deriving DecidableEq, Repr

namespace Path

/-- Two slashes at the front are kept as two, any other count as one. -/
def rootOf (cs : List Char) : String :=
  match (cs.takeWhile (· = '/')).length with
  | 0 => ""
  | 2 => "//"
  | _ => "/"

def ofString (s : String) : Path :=
  { root := rootOf s.toList
    components := ((Text.splitOn '/' s.toList).map String.ofList).filter fun part =>
      part ≠ "" ∧ part ≠ "." }

/-- Writes a path; the working directory itself is a point. -/
def text (p : Path) : String :=
  if p.root = "" ∧ p.components = [] then "."
  else p.root ++ String.ofList (['/'].intercalate (p.components.map String.toList))

/-- The path of something that is named relative to a directory. An absolute name
stands for itself. -/
def join (p : Path) (name : String) : Path :=
  let q := ofString name
  if q.root = "" then ⟨p.root, p.components ++ q.components⟩ else q

def name (p : Path) : String := p.components.getLastD ""

/-- A name without what comes from its last point on, unless that point is the
first or the last character. -/
def stemOf (name : String) : String :=
  let back := name.toList.reverse
  let after := back.takeWhile (· ≠ '.')
  match back.dropWhile (· ≠ '.') with
  | [] => name
  | _ :: before => if after.isEmpty ∨ before.isEmpty then name else String.ofList before.reverse

def stem (p : Path) : String := stemOf p.name

def shown (p : Path) : String := String.ofList (Text.quoted p.text.toList)

end Path

end BrowserFlow.Store
